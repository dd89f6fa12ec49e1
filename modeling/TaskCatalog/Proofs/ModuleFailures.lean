import TaskCatalog.Proofs.Association
import TaskCatalog.Proofs.Candidates
import TaskCatalog.Proofs.Checks
import TaskCatalog.Proofs.LiteralValues
import TaskCatalog.Proofs.ReportedFailures
import TaskCatalog.Sources.Documented

/-!
How the extraction of modules fails, by their decorators and by their documentation: with a failure that it states of a
source file, but for the files that hold a zero character and those with an expression that has no text or a number that
has no digits.
-/

namespace TaskCatalog

open Text Outcome

namespace Module

variable {s : Sources} {strategy mark : Text} {root file : Path}

/-- What is wrong with a source file as a whole that is not stated of it. -/
inductive Unread (s : Sources) (file : Path) : Failure → Prop
  /-- The encoding is not UTF-8, but unknown or one that needs a mark. -/
  | encoding {b : Breakdown} : Encoding.ofName? s.conventions.sourceEncoding ≠ some .utf8 →
      Sources.readText s.fs s.conventions.sourceEncoding file = .error (.breakdown b) → Unread s file (.breakdown b)
  | zeroCharacter {chars : List Char} : Sources.readText s.fs s.conventions.sourceEncoding file = .ok chars →
      '\x00' ∈ chars → Unread s file (.breakdown .badValue)

theorem parse_fails (chars : List Char) :
    Fails (fun e => (∃ n, e = .line n) ∨ e = .zeroCharacter ∧ '\x00' ∈ chars) (Code.parse chars) := by
  unfold Code.parse
  split
  · next zero => exact .inr ⟨rfl, List.contains_iff_mem.1 zero⟩
  · exact .mapError (.of_all (fun _ _ => trivial) fun n _ => .inl ⟨n, rfl⟩)

theorem read?_fails : Fails (fun f => f.IsReported strategy file ∨ Unread s file f) (read? s strategy mark root file) := by
  have stated (fault : ExtractionFault) : ((⟨strategy, file.text⟩ : Site).fault fault).IsReported strategy file :=
    Site.reported (Site.isIn_file strategy file) fault
  unfold read?
  dsimp only
  cases text : Sources.readText s.fs s.conventions.sourceEncoding file with
  | error fault =>
    cases fault with
    | read cause => exact .inl (stated _)
    | breakdown b => exact .inr (.encoding (Sources.foreign_of_breakdown text) text)
  | ok chars =>
    refine .ite ?_ trivial
    cases parsed : Code.parse chars with
    | ok statements => trivial
    | error fault =>
      rcases (parse_fails chars).of_error parsed with ⟨n, rfl⟩ | ⟨rfl, zero⟩
      · exact .inl (stated _)
      · exact .inr (.zeroCharacter text zero)

theorem annotationText_fails (e : Code.Expression) :
    Fails (fun f => f = .breakdown .badValue ∧ e.text? = none) (annotationText e) := by
  unfold annotationText
  split
  · trivial
  · next missing => exact ⟨rfl, missing⟩

end Module

namespace Decorated

variable {s : Site} {file : Path} {e a : Code.Expression} {f : Failure} {os : Options} {name argument : Text}
  {allowed scope : List Text} {annotations : Annotations} {c : Conventions} {m : Module} {d : Candidate}
  {statements : List Code.Statement}

/-- The expressions that a decorator is called with. -/
def arguments : Code.Expression → List Code.Expression
  | .call _ positional keywords => positional ++ keywords.map fun (.mk _ e) => e
  | _ => []

/-- What is wrong with an argument that is not stated of it. -/
inductive Breaks (a : Code.Expression) : Failure → Prop
  /-- The sum of a complex number and a whole number that is too large for a real one. -/
  | tooLarge : a.value = .error .tooLarge → Breaks a (.breakdown .tooLarge)
  | unprinted : a.value = .error .notLiteral → a.text? = none → Breaks a (.breakdown .badValue)
  /-- A whole number with more digits than are ever written out. -/
  | unspelled {v : Value} : a.value = .ok v → v.isSpelled = false → Breaks a (.breakdown .badValue)

/-- The options are the values of expressions. -/
def Options.Among (os : Options) (es : List Code.Expression) : Prop := ∀ o ∈ os, ∃ a ∈ es, a.value = .ok o.2

theorem literal_ends (inside : s.IsIn file) :
    Ends (fun f => f.IsReported s.strategy file ∨ Breaks e f) (fun v => e.value = .ok v) (literal s argument e) := by
  unfold literal
  split
  · next found => exact found
  · next large => exact .inr (.tooLarge large)
  · exact .inl (Site.reported inside _)
  · next other missing => exact .inr (.unprinted other missing)

theorem addKeywords_ends (inside : s.IsIn file) {es : List Code.Expression} {keywords : List Code.Keyword}
    (known : os.Among es) (more : (keywords.map fun (.mk _ e) => e) ⊆ es) :
    Ends (fun f => f.IsReported s.strategy file ∨ ∃ a ∈ es, Breaks a f) (fun os => os.Among es)
      (addKeywords s allowed os keywords) := by
  have stated {α : Type} {Q : α → Prop} (fault : ExtractionFault) :
      Ends (fun f => f.IsReported s.strategy file ∨ ∃ a ∈ es, Breaks a f) Q (s.fail fault) :=
    .inl (Site.reported inside fault)
  induction keywords generalizing os with
  | nil => exact known
  | cons k rest ih =>
    obtain ⟨here, later⟩ := List.cons_subset.1 more
    obtain ⟨_ | name, e⟩ := k
    · exact stated _
    rw [addKeywords]
    split
    · exact stated _
    split
    · exact stated _
    refine Ends.bind ((literal_ends inside).weaken (fun f => Or.imp_right fun broken => ⟨e, here, broken⟩))
      fun v found => ih ?_ later
    exact List.forall_mem_append.2 ⟨known, List.forall_mem_singleton.2 ⟨e, here, found⟩⟩

theorem options_ends (inside : s.IsIn file) :
    Ends (fun f => f.IsReported s.strategy file ∨ ∃ a ∈ arguments e, Breaks a f) (fun os => os.Among (arguments e))
      (options s allowed e) := by
  unfold options
  split
  · next f positional keywords =>
    have named : (keywords.map fun (.mk _ e) => e) ⊆ arguments (.call f positional keywords) :=
      List.subset_append_right _ _
    split
    · exact addKeywords_ends inside (List.forall_mem_nil _) named
    · next e =>
      have here : e ∈ arguments (.call f [e] keywords) := List.mem_cons_self
      refine Ends.bind (Q := fun os : Options => os.Among (arguments (.call f [e] keywords))) ?_
        fun os known => addKeywords_ends inside known named
      refine ((literal_ends inside).weaken (fun f => Or.imp_right fun broken => ⟨e, here, broken⟩)).map
        fun v found => List.forall_mem_singleton.2 ⟨e, here, found⟩
    · exact .inl (Site.reported inside _)
  · exact List.forall_mem_nil _

namespace Options

variable {es : List Code.Expression} {v : Value}

theorem Among.of_get? (known : os.Among es) (found : os.get? name = some v) : ∃ a ∈ es, a.value = .ok v :=
  known _ (Association.mem_of_lookup found)

theorem Among.breaks (known : os.Among es) (name : Text) (unspelled : ¬(os.value name).isSpelled) :
    ∃ a ∈ es, Breaks a (.breakdown .badValue) := by
  cases found : os.get? name with
  | none =>
    rw [value, found] at unspelled
    exact absurd rfl unspelled
  | some v =>
    rw [value, found] at unspelled
    obtain ⟨a, member, is⟩ := known.of_get? found
    exact ⟨a, member, .unspelled is (Bool.eq_false_iff.2 unspelled)⟩

theorem Among.acyclic (known : os.Among es) (found : os.get? name = some v) : v.isCyclic = false := by
  obtain ⟨a, -, is⟩ := known.of_get? found
  exact a.value_acyclic.of_ok is

end Options

theorem parameter_fails (inside : s.IsIn file) :
    Fails (fun f => f.IsReported s.strategy file ∨ ∃ a ∈ arguments e, Breaks a f) (parameter s annotations e) := by
  refine (options_ends inside).bind fun os known => ?_
  split
  · exact .inl (Site.reported inside _)
  · split
    · exact (Site.parameter_fails inside).weaken fun _ => .inl
    · next unspelled => exact .inr (known.breaks "default" unspelled)
  · exact .inl (Site.reported inside _)

theorem checkPhase_fails (inside : s.IsIn file) {es : List Code.Expression} (known : os.Among es) :
    Fails (fun f => f.IsReported s.strategy file ∨ ∃ a ∈ es, Breaks a f) (checkPhase s c (os.value "phase")) := by
  unfold checkPhase
  split
  · trivial
  · exact .ite trivial (.inl (Site.reported inside _))
  · split
    · exact .inl (Site.reported inside _)
    · next unspelled => exact .inr (known.breaks "phase" unspelled)

theorem requirements_fails (inside : s.IsIn file) : Fails (·.IsReported s.strategy file) (requirements s os) := by
  unfold requirements
  split
  · trivial
  · exact Site.reported inside _

theorem configuration_acyclic {es : List Code.Expression} (known : os.Among es) (d : Definition) (implementation : Text) :
    ((((taskFields os d implementation).get? "configuration").getD .null).isCyclic) = false := by
  have stated : (taskFields os d implementation).get? "configuration" =
      some ((os.truthy? "configuration").getD (.map [])) := by
    rw [taskFields, Record.get?_ofPairs]
    rfl
  rw [stated]
  cases found : os.truthy? "configuration" with
  | none => rfl
  | some v => exact known.acyclic (Option.mem_filter_iff.1 found).1

theorem annotations_fails {hints : List (Text × Code.Expression)} {es : List Code.Expression}
    (among : ∀ hint ∈ hints, hint.2 ∈ es) :
    Fails (fun f => f = .breakdown .badValue ∧ ∃ e ∈ es, e.text? = none)
      (hints.mapM fun (n, e) => (Module.annotationText e).map (n, ·)) := by
  refine Ends.mapM_fails fun (n, e) member => ?_
  refine Ends.map ((Module.annotationText_fails e).weaken ?_) fun _ _ => trivial
  rintro f ⟨rfl, missing⟩
  exact ⟨rfl, e, among _ member, missing⟩

theorem memberAnnotations_fails (body : List Code.Statement) :
    Fails (fun f => f = .breakdown .badValue ∧ ∃ e ∈ memberHints body, e.text? = none) (memberAnnotations body) := by
  refine annotations_fails fun hint member => ?_
  obtain ⟨st, inside, found⟩ := List.mem_filterMap.1 member
  refine List.mem_filterMap.2 ⟨st, inside, ?_⟩
  split at found
  · cases found
    rfl
  · cases found

theorem parameterAnnotations_fails (signature : Code.Signature) :
    Fails (fun f => f = .breakdown .badValue ∧ ∃ e ∈ parameterHints signature, e.text? = none)
      (parameterAnnotations signature) := by
  refine annotations_fails fun hint member => ?_
  obtain ⟨b, inside, found⟩ := List.mem_filterMap.1 member
  obtain ⟨e, stated, rfl⟩ := Option.map_eq_some_iff.1 found
  exact List.mem_filterMap.2 ⟨b, inside, stated⟩

theorem candidate_fails (member : d ∈ candidates scope statements) :
    Fails (fun f => f = .breakdown .badValue ∧ ∃ e ∈ d.hints, e.text? = none) d.definition.annotations := by
  fun_induction candidates scope statements with
  | case1 => cases member
  | case2 scope line name decorators body rest inner more =>
    rcases List.mem_cons.1 member with rfl | later
    · exact memberAnnotations_fails body
    · exact (List.mem_append.1 later).elim inner more
  | case3 scope line name decorators signature body rest more =>
    rcases List.mem_cons.1 member with rfl | later
    · exact parameterAnnotations_fails signature
    · exact more later
  | case4 scope statement rest _ _ more => exact more member

/-- What is wrong with a candidate that is not stated of it. -/
inductive Candidate.Breaks (c : Conventions) (d : Candidate) : Failure → Prop
  | argument {e a : Code.Expression} {f : Failure} : e ∈ d.marks c → a ∈ arguments e → Decorated.Breaks a f → Breaks c d f
  /-- An annotation that cannot be written out. -/
  | hint {e : Code.Expression} : e ∈ d.hints → e.text? = none → Breaks c d (.breakdown .badValue)

theorem task?_fails (member : d ∈ candidates [] statements) :
    Fails (fun f => f.IsReported strategy m.file ∨ d.Breaks c f) (task? c m d.scope d.definition) := by
  have inside := Site.isIn_line strategy m.file d.definition.line
  have breaks {e : Code.Expression} (mark : e ∈ d.marks c) (f : Failure)
      (fault : f.IsReported strategy m.file ∨ ∃ a ∈ arguments e, Breaks a f) :
      f.IsReported strategy m.file ∨ d.Breaks c f :=
    fault.imp_right fun ⟨a, given, broken⟩ => .argument mark given broken
  unfold task?
  dsimp only
  split
  · exact .ite trivial (.inl (Site.reported inside _))
  · next e only =>
    have mark : e ∈ d.marks c := List.mem_append_left _ (only ▸ List.mem_singleton_self e)
    refine ((options_ends inside).weaken (breaks mark)).bind fun os known => ?_
    refine ((checkPhase_fails inside known).weaken (breaks mark)).bind fun _ _ => ?_
    refine ((candidate_fails member).weaken ?_).bind fun annotations _ => ?_
    · rintro f ⟨rfl, e, hint, missing⟩
      exact .inr (.hint hint missing)
    refine Ends.bind (Q := fun _ => True) (Ends.mapM_fails fun p given => ?_) fun ps _ => ?_
    · refine (parameter_fails inside).weaken (breaks (List.mem_append_right _ ?_))
      split at given
      · cases given
      · exact given
    refine ((requirements_fails inside).weaken (fun _ => .inl)).bind fun rs _ => ?_
    refine Ends.bind ((Site.task_fails inside).weaken ?_) fun t _ => trivial
    rintro f (reported | ⟨cyclic, -⟩)
    · exact .inl reported
    · rw [configuration_acyclic known] at cyclic
      cases cyclic
  · exact .inl (Site.reported (s := ⟨strategy, m.file.text⟩) (Site.isIn_file strategy m.file) _)

/-- What is wrong with a source file that is not stated of it. -/
inductive Escapes (s : Sources) (root file : Path) : Failure → Prop
  | unread {f : Failure} : Module.Unread s file f → Escapes s root file f
  | candidate {m : Module} {d : Candidate} {f : Failure} :
      Module.read? s strategy s.conventions.taskDecorator root file = .ok (some m) → d ∈ candidates [] m.statements →
      d.Breaks s.conventions f → Escapes s root file f

theorem fileTasks_fails (s : Sources) (root file : Path) :
    Fails (fun f => f.IsReported strategy file ∨ Escapes s root file f) (fileTasks s root file).result := by
  rw [fileTasks, Logged.result_bind, Logged.result_ofExcept]
  cases read : Module.read? s strategy s.conventions.taskDecorator root file with
  | error f => exact (Module.read?_fails.of_error read).imp_right .unread
  | ok found =>
    cases found with
    | none => trivial
    | some m =>
      obtain ⟨_, _, _, _, _, rfl⟩ := Module.read?_eq_some.1 read
      show Fails _ (Logged.result _)
      rw [Logged.result_bind, Logged.result_ofExcept, tasksIn_eq]
      refine Ends.bind (Q := fun _ => True) (Ends.map (Ends.mapM_fails fun d member => ?_) fun _ _ => trivial)
        fun ts _ => ?_
      · refine (task?_fails member).weaken fun f => Or.imp_right fun broken => ?_
        exact .candidate read member broken
      · dsimp only
        split <;> trivial

end Decorated

section

variable {s : Site} {file : Path} {tags : Tags}

theorem Tags.add_fails (inside : s.IsIn file) (texts : List Text) : Fails (·.IsReported s.strategy file) (add s tags texts) := by
  fun_induction add s tags texts with
  | case1 tags => trivial
  | case2 tags line rest malformed => exact Site.reported inside _
  | case3 tags line rest name value known again => exact Site.reported inside _
  | case4 tags line rest name value known fresh ih => exact ih

theorem Tags.flag_fails (inside : s.IsIn file) (name : Text) (absent : Bool) :
    Fails (·.IsReported s.strategy file) (tags.flag s name absent) := by
  unfold flag
  split
  · trivial
  · exact .ite trivial (.ite trivial (Site.reported inside _))

theorem Attributes.ofText_fails (inside : s.IsIn file) (known : List Text) (t : Text) :
    Fails (·.IsReported s.strategy file) (ofText s known t) := by
  unfold ofText
  dsimp only
  split
  · split
    · trivial
    · exact Site.reported inside _
  · exact Site.reported inside _

end

namespace Documented

variable {s : Site} {file : Path} {c : Conventions} {m : Module} {d : Definition} {tags : Tags} {f : Failure}

theorem parameter_fails (inside : s.IsIn file) (name : Text) (hint : Option Text) (documentation : Text) :
    Fails (·.IsReported s.strategy file) (parameter s name hint documentation) := by
  refine (Tags.add_fails inside _).bind fun tags _ => ?_
  split
  swap
  · exact Site.reported inside _
  refine (Attributes.ofText_fails inside _ _).bind fun attributes _ => ?_
  refine (Tags.flag_fails inside _ _).bind fun required _ => ?_
  refine (Tags.flag_fails inside _ _).bind fun readOnly _ => ?_
  exact Site.parameter_fails inside

/-- What is wrong with a class that is not stated of it: an attribute's annotation that cannot be written out. -/
def Breaks (d : Definition) (f : Failure) : Prop :=
  ∃ declaration ∈ d.body, ∃ line name e,
    attribute? declaration = some (line, name, some e) ∧ e.text? = none ∧ f = .breakdown .badValue

theorem parameter?_fails {declaration next : Code.Statement} (member : declaration ∈ d.body) :
    Fails (fun f => f.IsReported strategy file ∨ Breaks d f) (parameter? file declaration next) := by
  unfold parameter?
  split
  · trivial
  · next line name hint found =>
    refine Ends.bind (Q := fun _ => True) ?_ fun hint _ => ?_
    · cases hint with
      | none => trivial
      | some e =>
        refine Ends.map ((Module.annotationText_fails e).weaken ?_) fun _ _ => trivial
        rintro f ⟨rfl, missing⟩
        exact .inr ⟨declaration, member, line, name, e, found, missing, rfl⟩
    · split
      · trivial
      · next documentation _ =>
        have made := parameter_fails (Site.isIn_line strategy file line) name hint documentation
        exact .ite ((made.weaken fun _ => .inl).map fun _ _ => trivial) trivial

theorem parameters_fails : Fails (fun f => f.IsReported strategy file ∨ Breaks d f) (parameters file d.body) := by
  refine Ends.bind (Q := fun _ => True) (Ends.mapM_fails fun pair member => ?_) fun _ _ => trivial
  exact parameter?_fails (List.of_mem_zip member).1

theorem requirements_fails (inside : s.IsIn file) : Fails (·.IsReported s.strategy file) (requirements s tags) := by
  refine (Tags.flag_fails inside _ _).bind fun _ _ => ?_
  refine (Tags.flag_fails inside _ _).bind fun _ _ => ?_
  refine (Tags.flag_fails inside _ _).bind fun _ _ => ?_
  exact (Tags.flag_fails inside _ _).bind fun _ _ => trivial

theorem checkPhase_fails (inside : s.IsIn file) (phase : Option Text) :
    Fails (·.IsReported s.strategy file) (checkPhase s c phase) := by
  cases phase with
  | none => trivial
  | some phase => exact .ite trivial (Site.reported inside _)

theorem task_fails (documentation : Text) :
    Fails (fun f => f.IsReported strategy m.file ∨ Breaks d f) (task c m d documentation) := by
  have inside := Site.isIn_line strategy m.file d.line
  have stated {α : Type} {x : Except Failure α} (fails : Fails (·.IsReported strategy m.file) x) :
      Fails (fun f => f.IsReported strategy m.file ∨ Breaks d f) x := fails.weaken fun _ => .inl
  refine (stated (Tags.add_fails inside _)).bind fun tags _ => ?_
  split
  swap
  · exact .inl (Site.reported inside _)
  dsimp only
  split
  · exact .inl (Site.reported inside _)
  refine (stated (checkPhase_fails inside _)).bind fun _ _ => ?_
  refine (stated (requirements_fails inside)).bind fun rs _ => ?_
  refine parameters_fails.bind fun ps _ => ?_
  refine (Site.task_fails inside).weaken fun f fault => ?_
  rcases fault with reported | ⟨cyclic, -⟩
  · exact .inl reported
  · rw [Record.get?_ofPairs] at cyclic
    cases cyclic

/-- What is wrong with a source file that is not stated of it. -/
inductive Escapes (s : Sources) (root file : Path) : Failure → Prop
  | unread {f : Failure} : Module.Unread s file f → Escapes s root file f
  | definition {m : Module} {d : Definition} {f : Failure} :
      Module.read? s strategy ("@" ++ goalTag) root file = .ok (some m) → d ∈ classes m.statements → Breaks d f →
      Escapes s root file f

theorem fileTasks_fails (s : Sources) (root file : Path) :
    Fails (fun f => f.IsReported strategy file ∨ Escapes s root file f) (fileTasks s root file).result := by
  rw [fileTasks, Logged.result_bind, Logged.result_ofExcept]
  cases read : Module.read? s strategy ("@" ++ goalTag) root file with
  | error f => exact (Module.read?_fails.of_error read).imp_right .unread
  | ok found =>
    cases found with
    | none => trivial
    | some m =>
      obtain ⟨_, _, _, _, _, rfl⟩ := Module.read?_eq_some.1 read
      refine Logged.gather_fails fun work member => ?_
      obtain ⟨d, inside, rfl⟩ := List.mem_map.1 member
      unfold classTasks
      split
      · trivial
      · next documentation _ =>
        rw [Logged.result_bind, Logged.result_ofExcept]
        refine ((task_fails documentation).weaken fun f => Or.imp_right fun broken => ?_).bind fun t _ => trivial
        exact .definition read inside broken

end Documented

/-- Whatever the sources are, tasks are extracted from modules, or the failure is one that the extractor states of a
source file, but for what escapes it. -/
theorem Module.extractions_fail (s : Sources) :
    Fails (fun f => ∃ root file, (root, file) ∈ s.files [suffix] ∧
        (f.IsReported Decorated.strategy file ∨ Decorated.Escapes s root file f)) (Decorated.extract s).result ∧
      Fails (fun f => ∃ root file, (root, file) ∈ s.files [suffix] ∧
        (f.IsReported Documented.strategy file ∨ Documented.Escapes s root file f)) (Documented.extract s).result :=
  ⟨Sources.fails_of_files fun root file _ => Decorated.fileTasks_fails s root file,
    Sources.fails_of_files fun root file _ => Documented.fileTasks_fails s root file⟩

/-- Sources whose only module holds a zero character behind a class's name. -/
def Sources.zeroCharacter : Sources where
  fs := ⟨.directory [("src", .directory [("a.py", .file "@task\nclass A\x00:\n".toUTF8.toList)])], []⟩
  roots := [⟨true, ["src"]⟩]
  conventions := .default

theorem Module.zeroCharacter_escapes :
    ∃ f, (Decorated.extract .zeroCharacter).result = .error f ∧ ∀ file, ¬ f.IsReported Decorated.strategy file := by
  have broken : (match (Decorated.extract .zeroCharacter).result with
      | .error (.breakdown .badValue) => true
      | _ => false) = true := by
    decide +kernel
  split at broken
  · next escaped => exact ⟨_, escaped, Failure.not_isReported_breakdown _ _⟩
  · cases broken

end TaskCatalog
