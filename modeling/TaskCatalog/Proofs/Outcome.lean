import TaskCatalog.Log
import Mathlib.Data.List.Forall2

/-!
Works done one after the other: what the outcome of the whole says about the outcomes of its parts.
-/

namespace TaskCatalog

variable {ε δ α β : Type}

namespace Outcome

theorem ok_or_error (x : Except ε α) : (∃ a, x = .ok a) ∨ ∃ e, x = .error e := by
  cases x <;> simp

theorem bind_eq_ok {x : Except ε α} {f : α → Except ε β} {b : β} :
    x >>= f = .ok b ↔ ∃ a, x = .ok a ∧ f a = .ok b := by
  cases x <;> simp [bind, Except.bind]

theorem map_eq_ok {x : Except ε α} {f : α → β} {b : β} :
    x.map f = .ok b ↔ ∃ a, x = .ok a ∧ f a = b := by
  cases x <;> simp [Except.map]

theorem mapError_eq_ok {x : Except ε α} {f : ε → δ} {a : α} : x.mapError f = .ok a ↔ x = .ok a := by
  cases x <;> simp [Except.mapError]

theorem mapError_eq_error {x : Except ε α} {f : ε → δ} {d : δ} :
    x.mapError f = .error d ↔ ∃ e, x = .error e ∧ f e = d := by
  cases x <;> simp [Except.mapError]

theorem alike_of_mapError {x y : Except ε α} {f : ε → δ} (alike : x.mapError f = y.mapError f) :
    (∃ e e', x = .error e ∧ y = .error e' ∧ f e = f e') ∨ ∃ a, x = .ok a ∧ y = .ok a := by
  cases x with
  | error e => exact .inl (by simpa [eq_comm] using mapError_eq_error.1 alike.symm)
  | ok a => exact .inr ⟨a, rfl, mapError_eq_ok.1 alike.symm⟩

theorem toOption_eq_some {x : Except ε α} {a : α} : x.toOption = some a ↔ x = .ok a := by
  cases x <;> simp [Except.toOption]

theorem bind_mapError_ok {x : Except ε α} {f : ε → δ} {next : α → Except δ β} {a : α} (h : x = .ok a) :
    x.mapError f >>= next = next a := by
  rw [h]
  rfl

theorem bind_mapError_error {x : Except ε α} {f : ε → δ} {next : α → Except δ β} {e : ε}
    (h : x = .error e) : x.mapError f >>= next = .error (f e) := by
  rw [h]
  rfl

theorem exists_of_forall₂ {R : α → β → Prop} {as : List α} {bs : List β} (h : List.Forall₂ R as bs) {b : β}
    (hb : b ∈ bs) : ∃ a ∈ as, R a b := by
  induction h with
  | nil => cases hb
  | cons here _ ih =>
    rw [List.exists_mem_cons_iff]
    rcases List.mem_cons.1 hb with rfl | hb
    · exact .inl here
    · exact .inr (ih hb)

theorem forall₂_split {R : α → β → Prop} {before after : List α} {a : α} {bs : List β}
    (h : List.Forall₂ R (before ++ a :: after) bs) : ∃ first b last, bs = first ++ b :: last ∧
      List.Forall₂ R before first ∧ R a b ∧ List.Forall₂ R after last := by
  induction before generalizing bs with
  | nil =>
    cases h with
    | cons here later => exact ⟨[], _, _, rfl, .nil, here, later⟩
  | cons c before ih =>
    cases h with
    | cons here later =>
      obtain ⟨first, b, last, rfl, above, found, below⟩ := ih later
      exact ⟨_ :: first, b, last, rfl, .cons here above, found, below⟩

theorem getElem?_of_forall₂ {R : α → β → Prop} {as : List α} {bs : List β} (h : List.Forall₂ R as bs) {i : Nat} {a : α}
    (there : as[i]? = some a) : ∃ b, bs[i]? = some b ∧ R a b := by
  induction h generalizing i with
  | nil => cases there
  | cons here _ ih =>
    cases i with
    | zero =>
      cases there
      exact ⟨_, rfl, here⟩
    | succ i => exact ih there

theorem forall₂_of_mapM {f : α → Except ε β} {as : List α} {bs : List β} (h : as.mapM f = .ok bs) :
    List.Forall₂ (fun a b => f a = .ok b) as bs := by
  induction as generalizing bs with
  | nil =>
    cases h
    exact .nil
  | cons a as ih =>
    rw [List.mapM_cons] at h
    obtain ⟨b, hb, h⟩ := bind_eq_ok.1 h
    obtain ⟨more, hmore, h⟩ := bind_eq_ok.1 h
    cases h
    exact .cons hb (ih hmore)

theorem mem_of_mapM {f : α → Except ε β} {as : List α} {bs : List β} (h : as.mapM f = .ok bs)
    {b : β} (hb : b ∈ bs) : ∃ a ∈ as, f a = .ok b :=
  exists_of_forall₂ (forall₂_of_mapM h) hb

theorem forall₂_imp_of_mem {R S : α → β → Prop} {as : List α} {bs : List β} (h : List.Forall₂ R as bs)
    (imp : ∀ a, ∀ b ∈ bs, R a b → S a b) : List.Forall₂ S as bs := by
  rw [List.forall₂_iff_zip] at h ⊢
  exact ⟨h.1, fun hab => imp _ _ (List.of_mem_zip hab).2 (h.2 hab)⟩

theorem mapM_of_forall₂ {f : α → Except ε β} {as : List α} {bs : List β}
    (h : List.Forall₂ (fun a b => f a = .ok b) as bs) : as.mapM f = .ok bs := by
  induction h with
  | nil => rfl
  | cons head _ ih =>
    rw [List.mapM_cons, head, ih]
    rfl

theorem mapM_within_iff {f : α → Except ε β} {before after : List α} {a : α} {bs : List β} :
    (before ++ a :: after).mapM f = .ok bs ↔ ∃ first b last, before.mapM f = .ok first ∧ f a = .ok b ∧
      after.mapM f = .ok last ∧ first ++ b :: last = bs := by
  rw [List.mapM_append]
  constructor
  · intro h
    obtain ⟨first, above, rest⟩ := bind_eq_ok.1 h
    obtain ⟨more, found, same⟩ := bind_eq_ok.1 rest
    cases same
    rw [List.mapM_cons] at found
    obtain ⟨b, here, tail⟩ := bind_eq_ok.1 found
    obtain ⟨last, below, same⟩ := bind_eq_ok.1 tail
    cases same
    exact ⟨first, b, last, above, here, below, rfl⟩
  · rintro ⟨first, b, last, above, here, below, rfl⟩
    rw [above, List.mapM_cons, here, below]
    rfl

theorem forall₂_flatten {R : α → List β → Prop} {Q : α → β → Prop} {p : α → Bool} {as : List α}
    {parts : List (List β)} (each : List.Forall₂ R as parts)
    (one : ∀ a part, R a part → p a = true → ∃ b, part = [b] ∧ Q a b)
    (none : ∀ a part, R a part → p a = false → part = []) : List.Forall₂ Q (as.filter p) parts.flatten := by
  induction each with
  | nil => exact .nil
  | @cons a part as parts here _ ih =>
    rw [List.flatten_cons]
    cases kept : p a with
    | true =>
      obtain ⟨b, rfl, related⟩ := one a part here kept
      rw [List.filter_cons_of_pos kept]
      exact .cons related ih
    | false =>
      rw [none a part here kept, List.filter_cons_of_neg (by rw [kept]; exact Bool.false_ne_true)]
      exact ih

/-- Of works that may each come to nothing, those that come to something stand against what comes of them. -/
theorem forall₂_of_flatten {f : α → Except ε (Option β)} {p : α → Bool} {as : List α} {bs : List β}
    (fruitful : ∀ a o, f a = .ok o → o.isSome = p a) (h : (as.mapM f).map (·.flatMap Option.toList) = .ok bs) :
    List.Forall₂ (fun a b => f a = .ok (some b)) (as.filter p) bs := by
  obtain ⟨os, made, rfl⟩ := map_eq_ok.1 h
  have each : List.Forall₂ (fun a part => ∃ o, f a = .ok o ∧ part = o.toList) as (os.map Option.toList) :=
    List.forall₂_map_right_iff.2 ((forall₂_of_mapM made).imp fun a o first => ⟨o, first, rfl⟩)
  rw [List.flatMap_def]
  refine forall₂_flatten each ?_ ?_
  · rintro a _ ⟨o, first, rfl⟩ fits
    obtain ⟨b, rfl⟩ := Option.isSome_iff_exists.1 ((fruitful a o first).trans fits)
    exact ⟨b, rfl, first⟩
  · rintro a _ ⟨o, first, rfl⟩ other
    have nothing := Option.isSome_eq_false_iff.1 ((fruitful a o first).trans other)
    rw [Option.isNone_iff_eq_none.1 nothing]
    rfl

/-- Works that may each come to nothing come to nothing as a whole just if all of them do. -/
theorem flatten_eq_nil_iff {f : α → Except ε (Option β)} {as : List α} :
    (as.mapM f).map (·.flatMap Option.toList) = .ok [] ↔ ∀ a ∈ as, f a = .ok none := by
  induction as with
  | nil => exact iff_of_true rfl (List.forall_mem_nil _)
  | cons a as ih =>
    rw [List.mapM_cons, List.forall_mem_cons, ← ih]
    cases f a with
    | error e => exact iff_of_false (by rintro ⟨⟩) (by rintro ⟨⟨⟩, -⟩)
    | ok found =>
      cases as.mapM f with
      | error e => exact iff_of_false (by rintro ⟨⟩) (by rintro ⟨-, ⟨⟩⟩)
      | ok more => cases found <;> simp [bind, Except.bind, Except.map, pure, Except.pure]

/-- Whatever comes of some work, a result is of one kind and a failure of another. -/
def Ends (P : ε → Prop) (Q : α → Prop) : Except ε α → Prop
  | .ok a => Q a
  | .error e => P e

/-- A failure is of a kind. -/
abbrev Fails (P : ε → Prop) (x : Except ε α) : Prop := Ends P (fun _ => True) x

namespace Ends

variable {P P' : ε → Prop} {Q Q' : α → Prop} {R : β → Prop} {x : Except ε α} {a : α} {e : ε}

theorem of_ok (h : Ends P Q x) (ok : x = .ok a) : Q a := by
  rw [ok] at h
  exact h

theorem of_error (h : Ends P Q x) (error : x = .error e) : P e := by
  rw [error] at h
  exact h

theorem of_all (gives : ∀ a, x = .ok a → Q a) (fails : ∀ e, x = .error e → P e) : Ends P Q x := by
  cases x with
  | ok a => exact gives a rfl
  | error e => exact fails e rfl

theorem mono (h : Ends P Q x) (fails : ∀ e, P e → P' e) (gives : ∀ a, Q a → Q' a) : Ends P' Q' x := by
  cases x with
  | ok a => exact gives a h
  | error e => exact fails e h

theorem weaken (h : Ends P Q x) (fails : ∀ e, P e → P' e) : Ends P' Q x := h.mono fails fun _ gives => gives

theorem bind {f : α → Except ε β} (h : Ends P Q x) (next : ∀ a, Q a → Ends P R (f a)) : Ends P R (x >>= f) := by
  cases x with
  | ok a => exact next a h
  | error e => exact h

theorem map {f : α → β} (h : Ends P Q x) (next : ∀ a, Q a → R (f a)) : Ends P R (x.map f) := by
  cases x with
  | ok a => exact next a h
  | error e => exact h

theorem mapError {P : δ → Prop} {f : ε → δ} (h : Ends (fun e => P (f e)) Q x) : Ends P Q (x.mapError f) := by
  cases x with
  | ok a => exact h
  | error e => exact h

theorem ite {c : Prop} [Decidable c] {y : Except ε α} (first : Ends P Q x) (second : Ends P Q y) :
    Ends P Q (if c then x else y) := by
  split
  · exact first
  · exact second

theorem mapM {f : α → Except ε β} {as : List α} (each : ∀ a ∈ as, Ends P R (f a)) :
    Ends P (fun bs => ∀ b ∈ bs, R b) (as.mapM f) := by
  induction as with
  | nil => exact List.forall_mem_nil _
  | cons a as ih =>
    rw [List.mapM_cons]
    rw [List.forall_mem_cons] at each
    refine each.1.bind fun b hb => (ih each.2).bind fun bs hbs => ?_
    exact List.forall_mem_cons.2 ⟨hb, hbs⟩

theorem mapM_fails {f : α → Except ε β} {as : List α} (each : ∀ a ∈ as, Fails P (f a)) : Fails P (as.mapM f) :=
  (mapM each).mono (fun _ h => h) fun _ _ => trivial

end Ends

end Outcome

namespace Logged

@[simp] theorem result_bind (x : Logged α) (f : α → Logged β) :
    (x >>= f).result = x.result >>= fun a => (f a).result := by
  cases h : x.result with
  | ok a => exact bind_result_ok f h
  | error e => exact congrArg Logged.result (bind_error f h)

@[simp] theorem result_pure (a : α) : (Pure.pure a : Logged α).result = .ok a := rfl

@[simp] theorem result_ofExcept (r : Except Failure α) : (ofExcept r).result = r := rfl

@[simp] theorem result_write (level : Level) (message : Text) : (write level message).result = .ok () := rfl

@[simp] theorem result_fail (f : Failure) : (fail f : Logged α).result = .error f := rfl

theorem forall₂_of_gather {works : List (Logged (List α))} {as : List α} (h : (gather works).result = .ok as) :
    ∃ parts, List.Forall₂ (fun w part => w.result = .ok part) works parts ∧ as = parts.flatten := by
  induction works generalizing as with
  | nil =>
    cases h
    exact ⟨[], .nil, rfl⟩
  | cons w works ih =>
    obtain ⟨found, hw, h⟩ := Outcome.bind_eq_ok.1 ((result_bind w _).symm.trans h)
    obtain ⟨more, hmore, h⟩ := Outcome.bind_eq_ok.1 ((result_bind (gather works) _).symm.trans h)
    cases h
    obtain ⟨parts, each, rfl⟩ := ih hmore
    exact ⟨found :: parts, .cons hw each, rfl⟩

theorem mem_of_gather {works : List (Logged (List α))} {as : List α} (h : (gather works).result = .ok as)
    {a : α} (ha : a ∈ as) : ∃ w ∈ works, ∃ found, w.result = .ok found ∧ a ∈ found := by
  obtain ⟨parts, each, rfl⟩ := forall₂_of_gather h
  obtain ⟨part, hpart, ha⟩ := List.mem_flatten.1 ha
  obtain ⟨w, hw, found⟩ := Outcome.exists_of_forall₂ each hpart
  exact ⟨w, hw, part, found, ha⟩

/-- Works done one after the other come to nothing just if each of them does. -/
theorem gather_eq_nil_iff {works : List (Logged (List α))} :
    gather works = Pure.pure [] ↔ ∀ w ∈ works, w = Pure.pure [] := by
  induction works with
  | nil => exact iff_of_true rfl (List.forall_mem_nil _)
  | cons w works ih =>
    rw [List.forall_mem_cons, ← ih, gather]
    obtain ⟨log, found | found⟩ := w
    · exact iff_of_false (by rintro ⟨⟩) (by rintro ⟨⟨⟩, -⟩)
    · cases gather works with
      | mk others more =>
        cases more with
        | error e => simp [bind, Pure.pure, pure]
        | ok more => simp [bind, Pure.pure, pure, and_assoc, and_left_comm]

/-- Works done one after the other fail as one of them does. -/
theorem gather_fails {P : Failure → Prop} {works : List (Logged (List α))}
    (each : ∀ w ∈ works, Outcome.Fails P w.result) : Outcome.Fails P (gather works).result := by
  induction works with
  | nil => trivial
  | cons w works ih =>
    rw [List.forall_mem_cons] at each
    have whole : (gather (w :: works)).result = w.result >>= fun found => (gather works).result >>= fun more =>
        .ok (found ++ more) := by
      refine (result_bind w _).trans (congrArg _ (funext fun found => ?_))
      exact result_bind (gather works) _
    rw [whole]
    exact each.1.bind fun _ _ => (ih each.2).bind fun _ _ => trivial

end Logged

end TaskCatalog
