import FlowGraph.Proofs.FileFacts

/-!
# What a script leaves

A script can end in three ways, and has four ways to change a run: its variables, its working file,
its reason for a failure and its value. If it was stopped it changes nothing. Otherwise its
variables are taken over first, then the last working file that it set, whose facts are published
over them, then the last reason that it gave; and if its value is no code, a reason that names the
script is put over that one (`script_concludes`).
-/

namespace FlowGraph

/-- What the last call gives that gives anything. -/
inductive LastGiven (gives : ScriptCall → Option String) (calls : List ScriptCall) :
    Option String → Prop where
  | nothing (silent : ∀ call ∈ calls, gives call = none) : LastGiven gives calls none
  | call (before : List ScriptCall) {after : List ScriptCall} {call : ScriptCall} {text : String}
      (split : calls = before ++ call :: after) (given : gives call = some text)
      (silent : ∀ later ∈ after, gives later = none) : LastGiven gives calls (some text)

/-- The last of what all calls give. -/
theorem lastGiven (gives : ScriptCall → Option String) (calls : List ScriptCall) :
    LastGiven gives calls (calls.filterMap gives).getLast? := by
  induction calls with
  | nil => exact .nothing nofun
  | cons first rest ih =>
    generalize last : (rest.filterMap gives).getLast? = text? at ih
    cases ih with
    | @call before after call text split given silent =>
      have same : ((first :: rest).filterMap gives).getLast? = some text := by
        rw [List.filterMap_cons]
        split
        · exact last
        · rw [List.getLast?_cons, last, Option.getD_some]
      rw [same]
      refine .call (first :: before) ?_ given silent
      rw [split, List.cons_append]
    | nothing silent =>
      have none : rest.filterMap gives = [] := by
        rw [List.filterMap_eq_nil_iff]
        exact silent
      rw [List.filterMap_cons, none]
      split
      · next nothing =>
        refine .nothing ?_
        rw [List.forall_mem_cons]
        exact ⟨nothing, silent⟩
      · next text given => exact .call [] rfl given silent

/-- What a script leaves under the name of a variable: what it made of it, which is nothing where it
removed it and the value before where JSON cannot hold the new one. -/
def Evaluation.leaves (e : Evaluation) (name : String) (before : Option Json) : Option Json :=
  match e.vars with
  | none => before
  | some made =>
    match made.get? name with
    | none => none
    | some none => before
    | some (some value) => some value

/-- The last working file that a script set. -/
def Evaluation.lastFile? (e : Evaluation) : Option String :=
  (e.calls.filterMap ScriptCall.workingFile?).getLast?

/-- The last reason that a script gave. -/
def Evaluation.lastReason? (e : Evaluation) : Option String :=
  (e.calls.filterMap ScriptCall.reason?).getLast?

/-- The variables and the files of a script are taken over. The facts of a working file that it has
set are published over its variables, and nothing else of the walk changes. -/
structure Context.TakesOver (before : Context) (e : Evaluation) (file? : Option Path)
    (after : Context) : Prop where
  vars : ∀ name, after.vars.get? name =
    (file?.bind fun file => (Scope.workingFileFacts file).lookup name).or
      (e.leaves name (before.vars.get? name))
  workingFile : after.workingFile = file?.getD before.workingFile
  originalFile : after.originalFile = before.originalFile
  failedAt : after.failedAt = before.failedAt
  lastCode : after.lastCode = before.lastCode
  depth : after.depth = before.depth

/-- The text names a script. -/
def NamesScript (name text : String) : Prop :=
  ∃ start rest, text = start ++ ("script '" ++ name ++ "'") ++ rest

/-- The result of a script and the context after it. -/
inductive Concludes (name : String) (before : Context) (e : Evaluation) :
    StepResult → Context → Prop where
  | canceled (stopped : e.outcome = .terminated) : Concludes name before e .canceled before
  | code {n : Int} {result : StepResult} {after : Context} {path? reason? : Option String}
      (value : e.outcome = .integer n) (range : -3 ≤ n ∧ n ≤ 99)
      (code : StepResult.ofCode? n = some result)
      (path : LastGiven ScriptCall.workingFile? e.calls path?)
      (takes : before.TakesOver e (path?.map Path.mk) after)
      (given : LastGiven ScriptCall.reason? e.calls reason?)
      (reason : after.failureReason = reason?.or before.failureReason) :
      Concludes name before e result after
  | refused {after : Context} {path? : Option String} {reason : String}
      (going : e.outcome ≠ .terminated)
      (noCode : ∀ n, e.outcome = .integer n → ¬(-3 ≤ n ∧ n ≤ 99))
      (path : LastGiven ScriptCall.workingFile? e.calls path?)
      (takes : before.TakesOver e (path?.map Path.mk) after)
      (given : after.failureReason = some reason) (names : NamesScript name reason) :
      Concludes name before e .failure after

/-- The codes are the numbers from -3 to 99. -/
theorem StepResult.isSome_ofCode? {n : Int} : (ofCode? n).isSome = true ↔ -3 ≤ n ∧ n ≤ 99 := by
  have highest : maxOutput = 99 := rfl
  unfold ofCode?
  grind

namespace ScriptStep

section
variable (s : Scope) (e : Evaluation)

/-- The variables of a script, before the facts of its working file are published. -/
def takenOver (s : Scope) (e : Evaluation) : Variables :=
  (e.vars.map (variablesAfter s.vars)).getD s.vars

theorem get?_takenOver (name : String) :
    (takenOver s e).get? name = e.leaves name (s.vars.get? name) := by
  unfold takenOver Evaluation.leaves
  cases e.vars with
  | none => rfl
  | some made =>
    refine (get?_variablesAfter s.vars made name).trans ?_
    dsimp only
    cases made.get? name with
    | none => rfl
    | some value? => cases value? <;> rfl

/-- The scope after a script, in the order in which it comes to be. -/
theorem scopeAfter_eq :
    scopeAfter s e =
      { workingFile := (e.lastFile?.map Path.mk).getD s.workingFile
        originalFile := s.originalFile
        vars := (e.lastFile?.map fun path =>
          (takenOver s e).insertAll (Scope.workingFileFacts ⟨path⟩)).getD (takenOver s e)
        failureReason := e.lastReason?.or s.failureReason } := by
  unfold scopeAfter takenOver Evaluation.lastFile? Evaluation.lastReason?
  cases e.vars with
  | none =>
    cases (e.calls.filterMap ScriptCall.workingFile?).getLast? with
    | none => cases (e.calls.filterMap ScriptCall.reason?).getLast? <;> rfl
    | some path => cases (e.calls.filterMap ScriptCall.reason?).getLast? <;> rfl
  | some made =>
    cases (e.calls.filterMap ScriptCall.workingFile?).getLast? with
    | none => cases (e.calls.filterMap ScriptCall.reason?).getLast? <;> rfl
    | some path => cases (e.calls.filterMap ScriptCall.reason?).getLast? <;> rfl

end

end ScriptStep

/-- **What a script did is taken over**, whatever the reason for a failure is then. -/
theorem Context.TakesOver.scopeAfter (before : Context) (e : Evaluation) (reason : Option String) :
    before.TakesOver e (e.lastFile?.map Path.mk)
      { before with
        toScope := { ScriptStep.scopeAfter before.toScope e with failureReason := reason } } where
  vars name := by
    rw [ScriptStep.scopeAfter_eq]
    cases e.lastFile? with
    | none => exact ScriptStep.get?_takenOver before.toScope e name
    | some path =>
      have distinct : ((Scope.workingFileFacts ⟨path⟩).map Prod.fst).Nodup := by
        show Scope.workingFileKeys.Nodup
        decide
      refine (Dict.get?_insertAll_of_distinct distinct _ name).trans ?_
      rw [ScriptStep.get?_takenOver]
      rfl
  workingFile := by rw [ScriptStep.scopeAfter_eq]
  originalFile := by rw [ScriptStep.scopeAfter_eq]
  failedAt := rfl
  lastCode := rfl
  depth := rfl

section
variable (name : String)

/-- A script that ended in an error is named. -/
theorem NamesScript.failed (message : String) :
    NamesScript name (ScriptStep.failedMessage name message) := by
  refine ⟨"", " failed: " ++ message, ?_⟩
  have quote : "' failed: " = "'" ++ " failed: " := by rfl
  simp only [ScriptStep.failedMessage, quote, String.empty_append, String.append_assoc]

/-- A script whose value is no number is named. -/
theorem NamesScript.wrongType (typeName : String) :
    NamesScript name (ScriptStep.wrongTypeMessage name typeName) := by
  refine ⟨"", " must return an integer result code, got " ++ typeName, ?_⟩
  have quote : "' must return an integer result code, got " =
      "'" ++ " must return an integer result code, got " := by rfl
  simp only [ScriptStep.wrongTypeMessage, quote, String.empty_append, String.append_assoc]

/-- A script whose value is no code is named. -/
theorem NamesScript.wrongCode (code : Int) :
    NamesScript name (ScriptStep.wrongCodeMessage name code) := by
  refine ⟨StepResult.invalidCodeMessage code ++ " from ", "", ?_⟩
  have script : " from script '" = " from " ++ "script '" := by rfl
  simp only [ScriptStep.wrongCodeMessage, script, String.append_empty, String.append_assoc]

end

/-- **What a script leaves.** A run that was canceled under a script is as it was. After any other
script the variables are those that the script left, each with its value unless JSON cannot hold it,
then the last file that it set is the working file and its facts are published, and nothing else of
the walk changes but the reason for a failure. A number from -3 to 99 is the code of the result, and
the reason is the last one that the script gave, if any. Every other script fails, for a reason that
names it. -/
theorem script_concludes (site : Site) (step : ScriptStep) (st : Standing) :
    Concludes step.name st.context
      (site.scripts st.ledger.clock (step.input st.ledger.canceled st.context.toScope))
      (Turn.act site (step.action ·) st).1 (Turn.act site (step.action ·) st).2.context := by
  generalize evaluation :
    site.scripts st.ledger.clock (step.input st.ledger.canceled st.context.toScope) = e
  have act : Turn.act site (step.action ·) st =
      ((ScriptStep.conclude step.name st.context.toScope e).result,
        st.absorb (ScriptStep.conclude step.name st.context.toScope e).scope
          (ScriptStep.conclude step.name st.context.toScope e).notices) := by
    rw [← evaluation]
    rfl
  have refused {reason : String} (going : e.outcome ≠ .terminated)
      (noCode : ∀ n, e.outcome = .integer n → ¬(-3 ≤ n ∧ n ≤ 99))
      (names : NamesScript step.name reason) :
      Concludes step.name st.context e .failure
        { st.context with
          toScope := (ScriptStep.scopeAfter st.context.toScope e).fail reason } :=
    .refused going noCode (lastGiven _ _) (.scopeAfter st.context e (some reason)) rfl names
  rw [act]
  unfold ScriptStep.conclude
  cases outcome : e.outcome with
  | terminated => exact .canceled outcome
  | failed message =>
    refine refused ?_ ?_ (.failed step.name message)
    · rw [outcome]
      exact nofun
    · rw [outcome]
      exact nofun
  | value typeName =>
    refine refused ?_ ?_ (.wrongType step.name typeName)
    · rw [outcome]
      exact nofun
    · rw [outcome]
      exact nofun
  | integer n =>
    dsimp only
    cases code : StepResult.ofCode? n with
    | some result =>
      have range : -3 ≤ n ∧ n ≤ 99 := by
        rw [← StepResult.isSome_ofCode?, code]
        rfl
      refine .code outcome range code (lastGiven _ _)
        (.scopeAfter st.context e (ScriptStep.scopeAfter st.context.toScope e).failureReason)
        (lastGiven _ _) ?_
      exact congrArg Scope.failureReason (ScriptStep.scopeAfter_eq st.context.toScope e)
    | none =>
      refine refused ?_ ?_ (.wrongCode step.name n)
      · rw [outcome]
        exact nofun
      · intro m same
        cases outcome.symm.trans same
        rw [← StepResult.isSome_ofCode?, code]
        exact Bool.false_ne_true

end FlowGraph
