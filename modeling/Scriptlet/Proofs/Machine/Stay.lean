import Scriptlet.Proofs.Machine.Yield

/-! # The current line

Few actions change the current line: all others leave it as it is, and an error that one of them raises
is blamed on it.

Main definitions:

* `Action.Stays`: an action leaves the current line as it is, and what errors it may raise.

Main statements: one for each action but those that are there to change the line. -/

namespace Scriptlet

namespace Action

variable {α β : Type} {action : Action α} {causes : Cause → Prop} {machine after : Machine}

/-- A failure is an error that is blamed on a line for one of certain causes, or such an error that
cannot be written, or none of an error. -/
structure Blames (failure : Failure) (line : Int) (causes : Cause → Prop) : Prop where
  error : ∀ error, failure = .error error → error.line = line ∧ causes error.cause
  unwritable : failure = .unwritable →
    ∃ cause, causes cause ∧ Error.isWritable ⟨cause, line⟩ = false

/-- An action leaves the current line as it is, and raises errors for certain causes only, which it
blames on that line. -/
def Stays (action : Action α) (causes : Cause → Prop) : Prop :=
  ∀ machine, action.Yields machine (fun _ after => after.line = machine.line)
    fun failure after => after.line = machine.line ∧ Blames failure machine.line causes

/-- An action leaves the current line as it is and raises no error. -/
abbrev Still (action : Action α) : Prop :=
  action.Stays fun _ => False

/-- A failure that is blamed for causes is blamed for more of them. -/
theorem Blames.mono {failure : Failure} {line : Int} {more : Cause → Prop}
    (blames : Blames failure line causes) (weaker : ∀ cause, causes cause → more cause) :
    Blames failure line more := by
  refine ⟨fun error raised => ?_, fun unwritten => ?_⟩
  · obtain ⟨line_eq, caused⟩ := blames.error error raised
    exact ⟨line_eq, weaker _ caused⟩
  · obtain ⟨cause, caused, unwritable⟩ := blames.unwritable unwritten
    exact ⟨cause, weaker _ caused, unwritable⟩

/-- A failure that has nothing to do with an error is blamed on nothing. -/
theorem blames_of_ne {failure : Failure} {line : Int} (other : ∀ error, failure ≠ .error error)
    (written : failure ≠ .unwritable) : Blames failure line causes :=
  ⟨fun error raised => absurd raised (other error), fun unwritten => absurd unwritten written⟩

/-- An action that raises errors for causes raises them for more of them. -/
theorem Stays.mono {more : Cause → Prop} (stays : action.Stays causes)
    (weaker : ∀ cause, causes cause → more cause) : action.Stays more := by
  intro machine
  refine (stays machine).mono (fun _ _ => id) ?_
  rintro failure after ⟨same, blames⟩
  exact ⟨same, blames.mono weaker⟩

/-- Two actions that keep the line keep it one after the other. -/
theorem Stays.bind {following : α → Action β} (first : action.Stays causes)
    (second : ∀ value, (following value).Stays causes) : (action >>= following).Stays causes := by
  intro machine
  refine yields_bind.mpr ((first machine).mono ?_ fun _ _ => id)
  intro value between same
  rw [← same]
  exact second value between

/-- A value is given on the line. -/
theorem still_pure (value : α) : (pure value : Action α).Still :=
  fun _ => rfl

/-- A failure is blamed on the line. -/
theorem stays_fail (cause : Cause) : (fail cause : Action α).Stays (· = cause) := by
  intro machine
  refine ⟨rfl, fun error raised => ?_, fun unwritten => ?_⟩
  · obtain ⟨rfl, -⟩ := Failure.ofError_eq_error_iff.mp raised
    exact ⟨rfl, rfl⟩
  · exact ⟨cause, rfl, Failure.ofError_eq_unwritable_iff.mp unwritten⟩

/-- An event that can be written is recorded on the line. -/
theorem still_record (settings : Settings) (event : Event) (writable : event.isWritable = true) :
    (record settings event).Still := by
  intro machine
  rw [Yields]
  obtain ⟨-, traced, run⟩ | ⟨fails, -⟩ := record_cases settings event machine
  · rw [run]
  · exact absurd (fun _ => writable) fails

/-- A question to the store keeps the line. -/
theorem still_query (question : Store Value → Except Store.Fault α) : (query question).Still := by
  intro machine
  rw [Yields, query]
  cases question machine.store with
  | ok answer => rfl
  | error fault => exact ⟨rfl, blames_of_ne (by simp) (by simp)⟩

/-- A change of the store keeps the line. -/
theorem still_update (change : Store Value → Except Store.Fault α × Store Value) :
    (update change).Still := by
  intro machine
  rw [Yields, update]
  obtain ⟨result, store⟩ := change machine.store
  cases result with
  | ok answer => rfl
  | error fault => exact ⟨rfl, blames_of_ne (by simp) (by simp)⟩

/-- A new scope keeps the line. -/
theorem still_createChild (around : Handle) (name : String) : (createChild around name).Still := by
  intro machine
  rw [Yields, createChild_eq]

/-- A binding that is set keeps the line. -/
theorem still_setBinding (scope : Handle) (name : String) (value : Value) :
    (setBinding scope name value).Still :=
  fun _ => rfl

/-- A new binding keeps the line. -/
theorem still_bind (scope : Handle) (name : String) (value : Value) :
    (bind scope name value).Still := by
  cases value with
  -- what a function retains changes the store alone
  | function closure =>
    refine (still_query _).bind fun outlives => ?_
    split
    · exact (still_update _).bind fun _ => still_setBinding _ _ _
    · exact still_setBinding _ _ _
  | integer | float | text | undefined | builtin | null => exact still_setBinding _ _ _

/-- So do those of parameters. -/
theorem still_bindParameters (scope : Handle) (names : List String) (values : List Value) :
    (bindParameters scope names values).Still := by
  induction names generalizing values with
  | nil => exact still_pure ()
  | cons name names ih =>
    cases values with
    | nil => exact still_pure ()
    | cons value values => exact (still_bind _ _ _).bind fun _ => ih values

/-- A name is looked up on the line; it may be unbound. -/
theorem stays_lookup (name : String) (scope : Handle) :
    (lookup name scope).Stays (· = .unbound name) := by
  refine ((still_query _).mono fun _ => False.elim).bind fun found => ?_
  cases found with
  | none => exact stays_fail _
  | some holder =>
    refine ((still_query _).mono fun _ => False.elim).bind fun held => ?_
    cases held with
    | none => exact stays_fail _
    | some value => exact (still_pure _).mono fun _ => False.elim

/-- What is looked up is bound in the scope in which it is found. -/
theorem finds_of_lookup {name : String} {scope : Handle} {value : Value}
    (run : lookup name scope machine = .ok value after) : after = machine ∧
      ∃ holder, machine.store.find? name scope = .ok (some holder) ∧
        machine.store.get? holder name = some value := by
  have search : (lookup name scope).Yields machine (fun other last => last = machine ∧
      ∃ holder, machine.store.find? name scope = .ok (some holder) ∧
        machine.store.get? holder name = some other) fun _ _ => True := by
    refine yields_bind.mpr ?_
    rw [Yields, query]
    cases finds : machine.store.find? name scope with
    | error fault => trivial
    | ok found =>
      cases found with
      | none => trivial
      | some holder =>
        refine yields_bind.mpr (yields_of_eq_ok rfl ?_)
        cases held : machine.store.get? holder name with
        | none => trivial
        | some value => exact ⟨rfl, holder, rfl, held⟩
  rw [Yields, run] at search
  exact search

/-- An assignment keeps the line. -/
theorem still_assign (settings : Settings) (name : String) (value : Value) (scope : Handle) :
    (assign settings name value scope).Still :=
  (still_query _).bind fun _ => (still_bind _ _ _).bind fun _ => (still_query _).bind fun _ =>
    still_record _ _ rfl

/-- A function is declared on the line. -/
theorem still_declareFunction (name : String) (parameters : List String) (body : List Node)
    (scope : Handle) : (declareFunction name parameters body scope).Still :=
  fun _ => rfl

/-- The number of arguments is checked on the line; it may be wrong. -/
theorem stays_checkArity (name : String) (expected : Option Nat) (given : Nat) :
    (checkArity name expected given).Stays fun cause =>
      ∃ count, expected = some count ∧ given ≠ count ∧ cause = .wrongArity name count given := by
  cases expected with
  | none => exact (still_pure ()).mono fun _ => False.elim
  | some count =>
    show (if given = count then pure () else fail _ : Action Unit).Stays _
    split
    · exact (still_pure ()).mono fun _ => False.elim
    · rename_i ne
      refine (stays_fail _).mono ?_
      rintro cause rfl
      exact ⟨count, rfl, ne, rfl⟩

/-- The check of the number of arguments is passed by the right one. -/
theorem eq_of_checkArity {name : String} {count given : Nat} {result : Unit}
    (run : checkArity name (some count) given machine = .ok result after) : given = count := by
  have checked := checkArity_yields name count given machine
  rw [Yields, run] at checked
  exact checked.2

/-- The room for a call is checked on the line; there may be none. -/
theorem stays_checkRoom (settings : Settings) :
    Stays (checkDepth.checkRoom settings) (· = .noRoom) := by
  intro machine
  unfold Yields checkDepth.checkRoom
  cases settings.room with
  | none => rfl
  | some room =>
    by_cases full : room ≤ machine.callDepth
    · simp only [if_pos full]
      exact (stays_fail .noRoom : (fail .noRoom : Action Unit).Stays _) machine
    · simp only [if_neg full]

/-- The depth of a call is checked on the line; it may be at its limit. -/
theorem stays_checkDepth (settings : Settings) (name : String) :
    (checkDepth settings name).Stays fun cause =>
      (∃ limit, settings.depthLimit = some limit ∧ cause = .tooDeep limit name) ∨
        cause = .noRoom := by
  intro machine
  have room := (stays_checkRoom settings).mono (fun cause => @Or.inr
    (∃ limit, settings.depthLimit = some limit ∧ cause = .tooDeep limit name) _) machine
  unfold Yields at room ⊢
  unfold checkDepth
  cases limited : settings.depthLimit with
  | none =>
    simp only [limited] at room
    exact room
  | some limit =>
    -- the limit comes before the room
    by_cases deep : limit ≤ machine.callDepth
    · simp only [if_pos deep]
      have tooDeep : (fail (.tooDeep limit name) : Action Unit).Stays _ := stays_fail _
      refine tooDeep.mono ?_ machine
      rintro cause rfl
      exact Or.inl ⟨limit, rfl, rfl⟩
    · simp only [limited] at room
      simp only [if_neg deep]
      exact room

/-- A call is entered on the line. -/
theorem still_enterCall (scope : Handle) : (enterCall scope).Still :=
  fun _ => rfl

/-- A result is kept on the line. -/
theorem still_keepResult (value : Value) : (keepResult value).Still := by
  intro machine
  cases value with
  | function closure =>
    cases inside : machine.frame with
    | none => simp only [Yields, keepResult, inside]
    | some frame =>
      by_cases younger : frame.serial ≤ closure.scope.serial
      · have kept := still_update (·.retain Value.scope? closure.scope) machine
        simp only [Yields, keepResult, inside, if_pos younger]
        exact kept
      · simp only [Yields, keepResult, inside, if_neg younger]
  | integer | float | text | undefined | builtin | null => exact rfl

/-- What an operator finds wrong is blamed on the line. -/
theorem stays_ofProblem (result : Except Operator.Problem α) :
    (ofProblem result).Stays fun cause => result = .error (.error cause) := by
  match result with
  | .ok value => exact fun _ => rfl
  | .error (.error cause) =>
    refine (stays_fail cause).mono ?_
    rintro _ rfl
    rfl
  | .error .tooLarge => exact fun _ => ⟨rfl, blames_of_ne (by simp) (by simp)⟩

/-- A builtin is called on the line. -/
theorem still_callBuiltin (builtin : Builtin) (arguments : List Value) :
    (callBuiltin builtin arguments).Still := by
  cases builtin with
  | print | track | dump | argc => exact fun _ => rfl

end Action

end Scriptlet
