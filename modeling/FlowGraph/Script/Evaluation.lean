import FlowGraph.Script.Assignment
import FlowGraph.Script.Machine

/-!
# Running scripts

Operands are evaluated from left to right; in a chain, all arguments and indices come
before the root, and in an assignment the new value comes first of all. Values are
copied, never shared. What phrases contain is run by a `Runner`, so that every rule is a
function of the rules for the phrases inside it.
-/

namespace FlowGraph.Script

/-- What runs the phrases inside others. -/
structure Runner where
  functions : List Function
  expr : Expr → Eval Value
  /-- Runs statements with a scope of their own; the truth value says whether their
  value is wanted. -/
  block : Bool → List Stmt → Eval Value
  /-- Goes on with a loop. -/
  loop : Option Expr → List Stmt → Eval Value

namespace Runner

/-- So many functions can be running at a time. -/
def greatestLevel : Nat := 64

/-- The end of a call of a function. -/
def callEnd (f : Function) (place : Place) (before : Machine) :
    EStateM.Result Interrupt Machine Value →
    EStateM.Result Interrupt Machine (Value × Option Value)
  | r =>
    let restored (after : Machine) : Machine := { before with calls := after.calls }
    match r with
    | .ok v after => .ok (v, after.self) (restored after)
    | .error (.back v) after => .ok (v, after.self) (restored after)
    | .error (.fault fault) after =>
      let told := if fault.cause.isFinal then fault.at_ place else .inCall f.name fault place
      .error (.fault told) (restored after)
    | .error other after => .error other (restored after)

variable (r : Runner)

/-- Calls a function of the script; gives its value, and the value that it was called on
as it is afterwards. -/
def callFunction (f : Function) (self : Option Value) (arguments : List Value)
    (place : Place) : Eval (Value × Option Value) := fun m =>
  if greatestLevel ≤ m.level then
    .error (.fault (.met .tooManyCalls (some place))) m
  else
    let bindings := (f.parameters.zip arguments).reverse.map fun p => ⟨p.1, p.2, false⟩
    callEnd f place m
      (r.block true f.body { m with bindings := bindings, self := self, level := m.level + 1 })

/-- The function of the script with a name and a number of parameters. -/
def function? (name : String) (count : Nat) : Option Function :=
  r.functions.find? fun f => f.name == name && f.parameters.length == count

/-- Calls a function of the library. -/
def callLibrary (name : String) (arguments : List Value) (place : Place) : Eval Given :=
  match Library.call name arguments with
  | none => Eval.fail (.unknownFunction name arguments) place
  | some (.error c) => Eval.fail c place
  | some (.ok given) => do
    modify fun m => { m with calls := given.calls.reverse ++ m.calls }
    return given

/-- Calls a function by its name. -/
def callNamed (name : String) (arguments : List Value) (place : Place) : Eval Given :=
  match r.function? name arguments.length with
  | some f => do
    let (v, _) ← r.callFunction f none arguments place
    return ⟨v, none, []⟩
  | none => callLibrary name arguments place

/-- A call; a variable that is the first argument is changed with it. -/
def call (name : String) (arguments : List Expr) (place : Place) : Eval Value :=
  match arguments with
  | .variable first p :: more => do
    let vs ← more.mapM r.expr
    let b ← Eval.lookup first p
    let given ← r.callNamed name (b.value :: vs) place
    match given.receiver, b.constant with
    | some v, false => Eval.put first v
    | _, _ => pure ()
    return given.value
  | arguments => do
    let vs ← arguments.mapM r.expr
    return (← r.callNamed name vs place).value

/-- A method called on a value; gives its value and the changed receiver. -/
def method (constant : Bool) (receiver : Value) (name : String) (arguments : List Value)
    (place : Place) : Eval (Value × Value) :=
  match r.function? name arguments.length with
  | some f => do
    let (v, self) ← r.callFunction f (some receiver) arguments place
    return (v, self.getD receiver)
  | none => do
    let given ← callLibrary name (receiver :: arguments) place
    match given.receiver with
    | none => return (given.value, receiver)
    | some changed =>
      if constant then Eval.fail (.changedConstant name) place
      else return (given.value, changed)

/-- A link with its arguments or index evaluated. -/
def boundLink : Link → Eval BoundLink
  | .property name place _ => return .property name place
  | .method name arguments place _ => return .method name (← arguments.mapM r.expr) place
  | .index e bracket => return .index (← r.expr e) e.start bracket

/-- Follows links from a value; gives the value at their end and the first value as the
methods on the way leave it. -/
def follow (constant : Bool) (v : Value) : List BoundLink → Eval (Value × Value)
  | [] => return (v, v)
  | .method name arguments place :: links => do
    let (result, changed) ← r.method constant v name arguments place
    let (last, _) ← follow constant result links
    return (last, changed)
  | .property name place :: links =>
    match v with
    | .map fields => do
      let (last, changed) ← follow constant ((fields.lookup name).getD .unit) links
      return (last, Value.withField fields name false changed)
    | v => do
      let part ← Eval.lift (fun _ => place) (Library.property v name)
      let (last, _) ← follow constant part links
      return (last, v)
  | .index i place bracket :: links => do
    let part ← Eval.lift (indexFaultPlace place bracket) (Library.at_ v i)
    let (last, changed) ← follow constant part links
    match v, i with
    | .map fields, .str key => return (last, Value.withField fields key false changed)
    | .array items, .int n =>
      match Library.place? items.length n with
      | some k => return (last, .array (items.set k changed))
      | none => return (last, v)
    | v, _ => return (last, v)

/-- A chain. -/
def chain (root : Expr) (links : List Link) : Eval Value := do
  let links ← links.mapM r.boundLink
  match root with
  | .variable name place =>
    let b ← Eval.lookup name place
    let (last, changed) ← r.follow b.constant b.value links
    if !b.constant then Eval.put name changed
    return last
  | .self place =>
    let v ← Eval.self place
    let (last, changed) ← r.follow false v links
    modify fun m => { m with self := some changed }
    return last
  | root =>
    let v ← r.expr root
    return (← r.follow false v links).1

/-- The truth value of an expression. -/
def test (e : Expr) : Eval Bool := do Eval.truth (← r.expr e) e.place

/-- The value of an expression. -/
def evaluate : Expr → Eval Value
  | .literal v _ => return v
  | .text parts _ => do
    let vs ← parts.mapM r.expr
    return .str (String.join (vs.map Value.text))
  | .array items _ => return .array (← items.mapM r.expr)
  | .map fields _ => do
    let vs ← fields.mapM fun field => do return (field.1, ← r.expr field.2)
    return .ofFields vs
  | .variable name place => return (← Eval.lookup name place).value
  | .self place => Eval.self place
  | .both left right _ => do
    if ← r.test left then return .bool (← r.test right) else return .bool false
  | .either left right _ => do
    if ← r.test left then return .bool true else return .bool (← r.test right)
  | .orElse left right _ => do
    match ← r.expr left with
    | .unit => r.expr right
    | v => return v
  | .unary op e place => do Eval.lift (fun _ => place) (op.apply (← r.expr e))
  | .binary op left right place => do
    let x ← r.expr left
    let y ← r.expr right
    Eval.lift (fun _ => place) (op.apply x y)
  | .inside item container place => do
    let c ← r.expr container
    let v ← r.expr item
    return (← callLibrary "contains" [c, v] place).value
  | .call name arguments place => r.call name arguments place
  | .chain root first more => r.chain root (first :: more)
  | .statement (.block body) _ => r.block true body
  | .statement s _ => r.block true [s]

/-- An assignment. -/
def assign (op : Option BinaryOp) (place : Place) (target value : Expr) : Eval Unit := do
  let change : Change := ⟨op, ← r.expr value, place⟩
  let (root, links) ← match target with
    | .chain root first more => do pure (root, ← (first :: more).mapM r.boundLink)
    | e => pure (e, [])
  let stopAt (c : Changed) : Eval Unit :=
    match c.fault with
    | some f => throw (.fault f)
    | none => return
  match root with
  | .variable name p =>
    let c := (← Eval.lookup name p).value.change change links
    Eval.put name c.value
    stopAt c
  | .self p =>
    let c := (← Eval.self p).change change links
    modify fun m => { m with self := some c.value }
    stopAt c
  | _ => return

/-- A value lies in a range of cases. -/
def inCaseRange (v : Value) (first last : Int) (closed : Bool) : Bool :=
  match v with
  | .int n => Library.inRange first last closed n
  | .float x =>
    Value.toDouble first <= x && (x < Value.toDouble last || (closed && x == Value.toDouble last))
  | _ => false

/-- A value of a case is the value itself. -/
def namesValue (v : Value) : Case → Bool
  | .of values _ _ => values.any v.same

/-- A range of a case has the value in it. -/
def coversValue (v : Value) : Case → Bool
  | .of values _ _ => values.any fun pattern =>
    match pattern with
    | .range first last closed => inCaseRange v first last closed
    | _ => false

/-- The body of the first case whose guard holds. -/
def firstHolding : List Case → Eval (Option (List Stmt))
  | [] => return none
  | .of _ none body :: _ => return some body
  | .of _ (some guard) body :: cases => do
    if ← r.test guard then return some body else firstHolding cases

/-- A selection: ranges count only when no case names the value. -/
def select (subject : Expr) (cases : List Case) (default : Option (List Stmt)) :
    Eval Value := do
  let v ← r.expr subject
  let naming := cases.filter (namesValue v)
  let body ← r.firstHolding (if naming.isEmpty then cases.filter (coversValue v) else naming)
  match body, default with
  | some body, _ => r.block true body
  | none, some body => r.block true body
  | none, none => return .unit

/-- One turn of a loop; gives the value of the loop if it ends. -/
def turn (body : Eval Value) : Eval (Option Value) := fun m =>
  match body m with
  | .ok _ m => .ok none m
  | .error (.leave v) m => .ok (some v) m
  | .error .again m => .ok none m
  | .error e m => .error e m

/-- One turn of a loop over items. -/
def itemTurn (name : String) (counter : Option String) (body : List Stmt) (k : Nat)
    (item : Value) : Eval (Option Value) :=
  turn <| Eval.within do
    if let some counter := counter then Eval.bind ⟨counter, .int k, false⟩
    Eval.bind ⟨name, item, false⟩
    r.block false body

/-- A loop over items, of which `k` are done. -/
def eachItem (run : Nat → Value → Eval (Option Value)) (k : Nat) : List Value → Eval Value
  | [] => return .unit
  | item :: items => do
    match ← run k item with
    | some v => return v
    | none => eachItem run (k + 1) items

/-- A loop over whole numbers from `n` on, of which `k` are done and `left` are left. -/
def eachNumber (run : Nat → Value → Eval (Option Value)) (n : Int) (k : Nat) :
    (left : Nat) → Eval Value
  | 0 => return .unit
  | left + 1 => do
    match ← run k (.int n) with
    | some v => return v
    | none => eachNumber run (n + 1) (k + 1) left

/-- A loop over the items of a value. -/
def forEach (name : String) (counter : Option String) (source : Expr) (body : List Stmt) :
    Eval Value := do
  let run := r.itemTurn name counter body
  match ← r.expr source with
  | .array items => eachItem run 0 items
  | .str s => eachItem run 0 (s.toList.map .char)
  | .range first last closed =>
    eachNumber run first 0 ((if closed then last + 1 else last) - first).toNat
  | _ => Eval.fail .noItems source.start

/-- The rest of a loop, from its condition on. -/
def looping (test? : Option Expr) (body : List Stmt) : Eval Value := do
  let goesOn ← match test? with
    | some e => r.test e
    | none => pure true
  if !goesOn then return .unit
  match ← turn (r.block false body) with
  | some v => return v
  | none => r.loop test? body

/-- The fault that leaves a rescue: throwing nothing throws the rescued fault again. -/
def rethrown (rescued : Fault) : Interrupt → Interrupt
  | .fault (.met (.thrown .unit) (some place)) => .fault (rescued.at_ place)
  | e => e

/-- A block that is tried, with the block for its failure. -/
def attempt (body : List Stmt) (name : Option String) (rescue : List Stmt) : Eval Value :=
  fun m =>
    match r.block false body m with
    | .ok _ after => .ok .unit after
    | .error (.fault f) after =>
      if f.cause.isFinal then .error (.fault f) after
      else
        let rescuing : Eval Value := Eval.within do
          if let some name := name then Eval.bind ⟨name, f.caught, false⟩
          let _ ← r.block false rescue
          return .unit
        match rescuing after with
        | .error e after => .error (rethrown f e) after
        | done => done
    | .error e after => .error e after

/-- The value of an expression that may be left out. -/
def optional (e? : Option Expr) : Eval Value :=
  match e? with
  | some e => r.expr e
  | none => return .unit

/-- Runs a statement. -/
def statement : Stmt → Eval Value
  | .expr e => r.expr e
  | .define constant name e => do
    let v ← r.expr e
    Eval.bind ⟨name, v, constant⟩
    return .unit
  | .assign op place target value => do
    r.assign op place target value
    return .unit
  | .block body => r.block true body
  | .cond test yes no => do
    if ← r.test test then r.block true yes else r.block true no
  | .select subject cases default => r.select subject cases default
  | .loop test body => r.looping test body
  | .forEach name counter source body => r.forEach name counter source body
  | .leave value => do throw (.leave (← r.optional value))
  | .again => throw .again
  | .back value => do throw (.back (← r.optional value))
  | .raise value place => do
    let v ← r.optional value
    Eval.fail (.thrown v) place
  | .attempt body name rescue => r.attempt body name rescue

/-- Runs statements in order and gives the value of the last one if it is wanted. Idle
statements whose value is not used are passed over. -/
def statements (wanted : Bool) : List Stmt → Eval Value
  | [] => return .unit
  | [s] =>
    if s.isIdle && !(wanted && s.givesValue) then return .unit else r.statement s
  | s :: rest => do
    if !s.isIdle then
      let _ ← r.statement s
    statements wanted rest

/-- A runner for so many phrases inside each other, turns of a loop counted in. -/
def upTo (functions : List Function) : Nat → Runner
  | 0 =>
    let stop {α : Type} (place? : Option Place) : Eval α :=
      throw (.fault (.met .exhausted place?))
    { functions, expr := fun e => stop (some e.place), block := fun _ _ => stop none
      loop := fun _ _ => stop none }
  | depth + 1 =>
    { functions
      expr := fun e => (upTo functions depth).evaluate e
      block := fun wanted body => Eval.within ((upTo functions depth).statements wanted body)
      loop := fun test? body => (upTo functions depth).looping test? body }

end Runner

end FlowGraph.Script
