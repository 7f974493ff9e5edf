import Graft.Command.Run

/-!
# What a part of a command comes to

A session carries a transcript along: the tree, what was shown and what was recorded. Most
parts of a command only look at the tree, and of what they do just one thing matters to the
rest: whether they go on, and with which value, or end the command. `Follows` says that a part
does what a plain computation over the tree says, and leaves the tree alone. It is proved of
the few things sessions are made of and carried over to whole commands by `follows_bind`.

Loading a project is such a part (`follows_prepare`), and so is looking one over
(`follows_check`). A command that ends early never ends with the status of success.
-/

namespace Graft.Command

open Text

namespace Session

variable {α β : Type}

/-- From every state with the tree, the part does what the computation says: it goes on with
the value, or ends the command without success. In both cases the tree stays as it is. -/
def Follows (s : Session α) (disk : Disk) (answer : Except Fault α) : Prop :=
  ∀ t : Transcript, t.disk = disk →
    match answer with
    | .ok a => ∃ t', s t = .ok a t' ∧ t'.disk = disk
    | .error _ => ∃ e t', s t = .error e t' ∧ t'.disk = disk ∧ e ≠ .exit 0

theorem follows_pure (disk : Disk) (a : α) : Follows (pure a) disk (.ok a) :=
  fun t ht => ⟨t, rfl, ht⟩

theorem bind_ok {s : Session α} {next : α → Session β} {t t' : Transcript} {a : α}
    (h : s t = .ok a t') : (s >>= next) t = next a t' := by
  change EStateM.bind s next t = _
  rw [EStateM.bind, h]

theorem bind_error {s : Session α} {next : α → Session β} {t t' : Transcript} {e : Ending}
    (h : s t = .error e t') : (s >>= next) t = .error e t' := by
  change EStateM.bind s next t = _
  rw [EStateM.bind, h]

/-- **One part after the other.** -/
theorem follows_bind {s : Session α} {next : α → Session β} {disk : Disk}
    {answer : Except Fault α} {further : α → Except Fault β} (hs : Follows s disk answer)
    (hnext : ∀ a, Follows (next a) disk (further a)) :
    Follows (s >>= next) disk (answer >>= further) := by
  intro t ht
  have hfirst := hs t ht
  cases answer with
  | error fault =>
      obtain ⟨e, t', he, hrest⟩ := hfirst
      exact ⟨e, t', bind_error he, hrest⟩
  | ok a =>
      obtain ⟨t', ha, hdisk⟩ := hfirst
      rw [bind_ok ha]
      exact hnext a t' hdisk

/-- A part that always goes on with the same value. -/
theorem Follows.andThen {s : Session α} {next : α → Session β} {disk : Disk} {a : α}
    {answer : Except Fault β} (hs : Follows s disk (.ok a)) (hnext : Follows (next a) disk answer) :
    Follows (s >>= next) disk answer := by
  intro t ht
  obtain ⟨t', ha, hdisk⟩ := hs t ht
  rw [bind_ok ha]
  exact hnext t' hdisk

theorem follows_disk (disk : Disk) : Follows Session.disk disk (.ok disk) := by
  intro t ht
  subst ht
  exact ⟨t, rfl, rfl⟩

theorem follows_print (disk : Disk) (p : Printed) : Follows (print p) disk (.ok ()) :=
  fun _ ht => ⟨_, rfl, ht⟩

theorem follows_note (disk : Disk) (records : List Record) :
    Follows (note records) disk (.ok ()) :=
  fun _ ht => ⟨_, rfl, ht⟩

theorem follows_attempt (disk : Disk) (answer : Except Fault α) :
    Follows (attempt answer) disk answer := by
  intro t ht
  cases answer with
  | ok a => exact ⟨t, rfl, ht⟩
  | error fault => exact ⟨.fault fault, t, rfl, ht, by simp⟩

theorem follows_exit (disk : Disk) {status : Nat} (h : status ≠ 0) (fault : Fault) :
    Follows (exit status : Session α) disk (.error fault) :=
  fun t ht => ⟨.exit status, t, rfl, ht, by simpa using h⟩

/-- The command ends with the complaint, whether its styling can be resolved or not. -/
theorem follows_abort (disk : Disk) (message : Text) (fault : Fault) :
    Follows (abort message : Session α) disk (.error fault) := by
  have hcomplain : Follows (complain "Error:".toList message) disk
      (Console.plain message >>= fun _ => .ok ()) :=
    follows_bind (follows_attempt disk _) fun _ => follows_print disk _
  have h := follows_bind hcomplain fun _ =>
    (follows_exit disk (by decide) fault : Follows (exit 1 : Session α) disk _)
  -- a message that cannot be shown ends the command with another fault
  cases hplain : Console.plain message with
  | ok t =>
      rw [hplain] at h
      exact h
  | error other =>
      rw [hplain] at h
      exact h

theorem follows_configured (disk : Disk) (answer : Except Fault α) :
    Follows (configured answer) disk answer := by
  unfold configured
  split
  · exact follows_abort disk _ _
  · exact follows_attempt disk _

end Session

open Session

/-! ## Loading a project -/

/-- The directory of a project in a tree. -/
def Place.rootIn (place : Place) (disk : Disk) : Path := place.root.resolve disk.here

/-- The options of a project in a tree. -/
def Place.optionsIn (place : Place) (disk : Disk) : Except Fault Options :=
  Options.load disk (configOf place (place.rootIn disk))

/-- Whether the component of a project has a file in a tree. -/
def requiredIn (disk : Disk) (root : Path) (options : Options) : Except Fault Unit := do
  let _ ← Component.locate disk root options.componentPath options.aliases

/-- The targets of a project in a tree. -/
def targetsIn (disk : Disk) (root : Path) (options : Options) : Except Fault Targets := do
  let pages ← pathFrom root options.pagesJson
  (Targets.load disk pages (.list options.included) (.list options.excluded)).2

/-- The directory of a project's documents in a tree. -/
def sourceIn (disk : Disk) (root : Path) (options : Options) : Except Fault Path := do
  let source ← pathFrom root options.sourceDir
  if ← disk.isDirectory source then return source else .error (.missing source)

/-- Everything that is needed to inject into a project, read from a tree. -/
def setupIn (place : Place) (disk : Disk) : Except Fault Setup := do
  let options ← place.optionsIn disk
  requiredIn disk (place.rootIn disk) options
  let draft ← options.draft
  let targets ← targetsIn disk (place.rootIn disk) options
  let _ ← draft.tag
  let source ← sourceIn disk (place.rootIn disk) options
  return { root := place.rootIn disk, draft, targets, source }

theorem follows_rootOf (disk : Disk) (place : Place) :
    Follows (rootOf place) disk (.ok (place.rootIn disk)) :=
  (follows_disk disk).andThen (follows_pure disk _)

theorem follows_loadTargets (disk : Disk) (options : Options) (root : Path) :
    Follows (loadTargets options root) disk (targetsIn disk root options) := by
  refine follows_bind (follows_attempt disk _) fun pages => ?_
  refine (follows_disk disk).andThen ?_
  exact (follows_note disk _).andThen (follows_configured disk _)

theorem follows_requireComponent (disk : Disk) (options : Options) (root : Path) :
    Follows (requireComponent options root) disk (requiredIn disk root options) := by
  refine (follows_disk disk).andThen ?_
  unfold requiredIn
  split
  · rename_i cause h
    rw [h]
    exact follows_abort disk _ _
  · exact follows_bind (follows_attempt disk _) fun _ => follows_pure disk ()

/-- **A project is loaded** as the tree says. -/
theorem follows_prepare (disk : Disk) (place : Place) :
    Follows (prepare place) disk (setupIn place disk) := by
  refine (follows_rootOf disk place).andThen ?_
  refine follows_bind ((follows_disk disk).andThen (follows_configured disk _)) fun options => ?_
  refine follows_bind (follows_requireComponent disk options _) fun _ => ?_
  refine follows_bind (follows_attempt disk _) fun draft => ?_
  refine follows_bind (follows_loadTargets disk options _) fun targets => ?_
  refine follows_bind (follows_attempt disk _) fun _ => ?_
  -- the directory of the documents is looked up in three steps
  rw [sourceIn, bind_assoc]
  refine follows_bind (follows_attempt disk _) fun source => ?_
  rw [bind_assoc]
  refine (follows_disk disk).andThen (follows_bind (follows_attempt disk _) fun there => ?_)
  cases there with
  | true => exact follows_pure disk _
  | false => exact follows_abort disk _ _

/-! ## Looking a project over -/

/-- Looking over a project succeeds if no check fails. -/
def checkedIn (place : Place) (disk : Disk) : Except Fault Unit := do
  let root := place.rootIn disk
  let checks ← (Diagnosis.collect disk (configOf place root) root).2
  if Diagnosis.count .error (checks.map (·.status)) != 0 then .error (.missing root)

/-- **A project is looked over** as the tree says. -/
theorem follows_check (disk : Disk) (place : Place) :
    Follows (check place) disk (checkedIn place disk) := by
  refine (follows_rootOf disk place).andThen ((follows_disk disk).andThen ?_)
  refine (follows_note disk _).andThen ?_
  refine follows_bind (follows_attempt disk _) fun checks => ?_
  refine (follows_print disk _).andThen ((follows_print disk _).andThen ?_)
  dsimp only
  split
  · exact follows_exit disk (by decide) _
  · exact follows_pure disk ()

/-! ## The end of a command -/

/-- The exit status of a command that ends early. -/
def Ending.status : Ending → Nat
  | .exit status => status
  | .fault _ => 1

/-- The fault that ends a command. -/
def Ending.fault? : Ending → Option Fault
  | .exit _ => none
  | .fault cause => some cause

/-- Only an exit with status zero is a success. -/
theorem Ending.status_ne_zero {e : Ending} (h : e ≠ .exit 0) : e.status ≠ 0 := by
  cases e with
  | exit status =>
      intro hstatus
      exact h (congrArg Ending.exit hstatus)
  | fault cause => exact Nat.one_ne_zero

section Execute

variable {disk : Disk} {t : Transcript} (level : Level) (action : Action)

theorem execute_ok {u : Unit} (h : perform action ⟨disk, [], []⟩ = .ok u t) :
    (execute level action disk).status = 0 ∧ (execute level action disk).fault = none ∧
      (execute level action disk).disk = t.disk := by
  unfold execute
  rw [EStateM.run, h]
  exact ⟨rfl, rfl, rfl⟩

theorem execute_error {e : Ending} (h : perform action ⟨disk, [], []⟩ = .error e t) :
    (execute level action disk).status = e.status ∧
      (execute level action disk).fault = e.fault? ∧
      (execute level action disk).disk = t.disk := by
  unfold execute
  rw [EStateM.run, h]
  cases e with
  | exit status => exact ⟨rfl, rfl, rfl⟩
  | fault cause => exact ⟨rfl, rfl, rfl⟩

/-- A command succeeds if what it follows does. -/
theorem status_eq_zero_iff {answer : Except Fault Unit} (h : Follows (perform action) disk answer) :
    (execute level action disk).status = 0 ↔ answer = .ok () := by
  have hrun := h ⟨disk, [], []⟩ rfl
  cases answer with
  | ok u =>
      obtain ⟨t, hok, _⟩ := hrun
      exact iff_of_true (execute_ok level action hok).1 rfl
  | error fault =>
      obtain ⟨e, t, herror, _, hexit⟩ := hrun
      refine iff_of_false ?_ (by simp)
      rw [(execute_error level action herror).1]
      exact Ending.status_ne_zero hexit

end Execute

end Graft.Command
