import ShapeSchema.Jq.Outputs
import ShapeSchema.Jq.Scope

/-!
# `ShapeSchema.Jq.Eval`: running filters

`eval` gives the outputs of a term on an input. `locate` gives the parts of an input that a term
points at, each with the path to it, and `update` replaces those parts by the outputs of a function;
a term that points nowhere in its input can neither be located nor updated. All three count down a
depth, which bounds how deep definitions call each other.
-/

set_option autoImplicit false

namespace ShapeSchema.Jq

/-- The operation that an operator asks for. -/
def MathOperator.operation : MathOperator → Value.Operation
  | .add => .add
  | .sub => .sub
  | .mul => .mul
  | .div => .div
  | .rem => .rem

/-- What a comparison asks of the order of two values. -/
def Comparison.holds : Comparison → Ordering → Bool
  | .eq, o => o == .eq
  | .ne, o => o != .eq
  | .lt, o => o == .lt
  | .le, o => o != .gt
  | .gt, o => o == .gt
  | .ge, o => o != .lt

/-- No outputs instead of an error, where a step is optional. -/
def Outputs.orNone (optional : Bool) (o : Outputs) : Outputs :=
  if optional then o.recover fun _ => .done else o

/-- The input unchanged instead of an error, where a step is optional. -/
def Outputs.orElse (optional : Bool) (v : Value) (o : Outputs) : Outputs :=
  if optional then o.recover fun _ => .one v else o

/-- Replaces a part by the first output of a function, or drops it if there is none. -/
def replaced (o : Outputs) (keep : Option Value → Value) : Outputs :=
  match o with
  | .done => .one (keep none)
  | .stopped b => .stopped b
  | .output v _ => .one (keep (some v))

/-- The numbers from a first one up to a last one, not included. -/
def countUp : Nat → Value → Value → Outputs
  | 0, _, _ => .stopped .depth
  | fuel + 1, first, last =>
    if first.compare last == .lt then
      .output first fun _ => match first.calculate .add (.int 1) with
        | .ok next => countUp fuel next last
        | .error e => .error e
    else .done

/-- Replaces each part of a value by outputs of a function: all of them in an array, the first in an
object. -/
def updateParts (f : Value → Outputs) : Value → Outputs
  | .array items =>
    (Outputs.ofList items |>.bind f).collect fun vs => .one (.array vs)
  | .object fields =>
    let step (acc : Outputs) (e : String × Value) : Outputs :=
      acc.bind fun done => replaced (f e.2) fun found =>
        match done, found with
        | .object fs, some v => .object (fs ++ [(e.1, v)])
        | done, _ => done
    fields.foldl step (.one (.object []))
  | v => .message s!"cannot iterate over {v.text}"

/-- Replaces the part of a value at an index. -/
def updateIndex (f : Value → Outputs) (v i : Value) : Outputs :=
  match v, i with
  | .object fields, .string key =>
    replaced (f ((fields.lookup key).getD .null)) fun found =>
      match found with
      | some x => .object (Entries.insert key x fields)
      | none => .object (fields.filter fun e => e.1 != key)
  | .array items, .int n =>
    match Value.place? n items.length with
    | none => .message s!"index {n} is out of bounds"
    | some k =>
      replaced (f (items[k]?.getD .null)) fun found =>
        match found with
        | some x => .array (items.set k x)
        | none => .array (items.eraseIdx k)
  | v, i => .ofExcept (Value.cannotIndex v i)

/-- Replaces a slice of an array. -/
def updateSlice (f : Value → Outputs) (v first last : Value) : Outputs :=
  match v with
  | .array items =>
    match Value.sliceBounds first last items.length with
    | .error e => .error e
    | .ok (lo, hi) =>
      replaced (f (.array ((items.take hi).drop lo))) fun found =>
        match found with
        | some (.array new) => .array (items.take lo ++ new ++ items.drop hi)
        | some x => .array (items.take lo ++ x :: items.drop hi)
        | none => .array (items.take lo ++ items.drop hi)
  | v => .message s!"cannot slice {v.text}"

/-- Binds the parameters of a definition to arguments. A value parameter is bound to each output of
its argument, which `value` computes. -/
def bindParameters (value : Term → Outputs) (outer : Scope) (k : Scope → Outputs) :
    List String → List Term → Scope → Outputs
  | p :: ps, a :: as, scope =>
    match p.toList with
    | '$' :: rest =>
      let name := String.ofList rest
      (value a).bind fun v =>
        bindParameters value outer k ps as (.value name v :: .closure name a outer :: scope)
    | _ => bindParameters value outer k ps as (.closure p a outer :: scope)
  | _, _, scope => k scope

/-- A part of a value and the path to it, as one output. -/
def located (path : List Value) (part : Value) : Value := .array [.array path, part]

/-- Goes on from the path and the part in an output. -/
def onLocated (f : List Value → Value → Outputs) : Value → Outputs
  | .array [.array path, part] => f path part
  | _ => .done

/-- The part in an output is neither false nor null. -/
def isLocatedTrue : Value → Bool
  | .array [_, part] => part.isTrue
  | _ => false

/-- The parts of a value with their indices. -/
def indexedParts : Value → Except Fault (List (Value × Value))
  | .array items => .ok (items.zipIdx.map fun (x, i) => (.int i, x))
  | .object fields => .ok (fields.map fun (k, x) => (.string k, x))
  | v => do return (← v.parts).map fun x => (.null, x)

/-- The index that stands for a slice in a path. -/
def sliceIndex (first last : Value) : Value := .object [("start", first), ("end", last)]

mutual

/-- The outputs of a term. -/
def eval (depth : Nat) (scope : Scope) (t : Term) (v : Value) : Outputs :=
  match depth with
  | 0 => .stopped .depth
  | depth + 1 =>
    match t with
    | .identity => .one v
    | .recurse => eval depth scope (.call "recurse" []) v
    | .number text => .one (.ofNumber text)
    | .text format parts => evalParts depth scope format parts v ""
    | .array none => .one (.array [])
    | .array (some body) => (eval depth scope body v).collect fun vs => .one (.array vs)
    | .object fields => evalFields depth scope fields v []
    | .negate body => (eval depth scope body v).map Value.negate
    | .binary op left right => evalBinary depth scope op left right v
    | .bind source pattern body =>
      (eval depth scope source v).bind fun x =>
        matchPattern depth scope pattern x fun scope => eval depth scope body v
    -- The depth tells labels of the same name apart.
    | .label name body => (eval depth (.label name depth :: scope) body v).untilJump depth
    | .breakTo name => .stopped (.jump ((scope.label? name).getD 0))
    | .reduce source pattern arguments =>
      match arguments with
      | [start, step] =>
        (eval depth scope start v).bind fun state =>
          (eval depth scope source v).fold (fun state x =>
            matchPattern depth scope pattern x fun scope => eval depth scope step state) state
      | _ => .message "a reduction has a start and a step"
    -- The third argument is what comes out for each state. Without it the state does.
    | .foreach source pattern arguments =>
      let run (start step emit : Term) : Outputs :=
        (eval depth scope start v).bind fun state =>
          (eval depth scope source v).scan
            (fun state x =>
              matchPattern depth scope pattern x fun scope => eval depth scope step state)
            (fun state x =>
              matchPattern depth scope pattern x fun scope => eval depth scope emit state)
            state
      match arguments with
      | [start, step] => run start step .identity
      | [start, step, emit] => run start step emit
      | _ => .message "a loop has a start and a step"
    | .attempt body handler =>
      (eval depth scope body v).recover fun e =>
        match handler with
        | some h => eval depth scope h e
        | none => .done
    | .cond [] none => .one v
    | .cond [] (some otherwise) => eval depth scope otherwise v
    | .cond ((c, body) :: branches) otherwise =>
      (eval depth scope c v).bind fun x =>
        if x.isTrue then eval depth scope body v
        else eval depth scope (.cond branches otherwise) v
    | .define definition body => eval depth (Scope.ofDefinition definition :: scope) body v
    -- What the scope defines comes before what is built in.
    | .call name arguments =>
      match scope.callee? name arguments.length with
      | some callee =>
        bindParameters (fun a => eval depth scope a v) scope
          (fun inner => eval depth inner callee.body v) callee.parameters arguments callee.scope
      | none => evalBuiltin depth scope name arguments v
    | .variable name => .one ((scope.value? name).getD .null)
    | .path base steps =>
      (eval depth scope base v).bind fun x => evalSteps depth scope v steps x

/-- The outputs of two terms with an operator between them. -/
def evalBinary (depth : Nat) (scope : Scope) (op : BinaryOperator) (left right : Term)
    (v : Value) : Outputs :=
  match depth with
  | 0 => .stopped .depth
  | depth + 1 =>
    let both (f : Value → Value → Except Fault Value) : Outputs :=
      (eval depth scope left v).bind fun x => (eval depth scope right v).map fun y => f x y
    match op with
    | .pipe => (eval depth scope left v).bind (eval depth scope right)
    | .comma => (eval depth scope left v).append fun _ => eval depth scope right v
    | .assign =>
      (eval depth scope right v).bind fun y => update depth scope left (fun _ => .one y) v
    | .update => update depth scope left (eval depth scope right) v
    | .updateMath op =>
      (eval depth scope right v).bind fun y =>
        update depth scope left (fun x => .ofExcept (x.calculate op.operation y)) v
    | .updateAlternative =>
      (eval depth scope right v).bind fun y =>
        update depth scope left (fun x => .one (if x.isTrue then x else y)) v
    -- The left outputs count only as far as they are true.
    | .alternative =>
      match (eval depth scope left v).filter Value.isTrue with
      | .done => eval depth scope right v
      | found => found
    | .or =>
      (eval depth scope left v).bind fun x =>
        if x.isTrue then .one (.bool true)
        else (eval depth scope right v).map fun y => .ok (.bool y.isTrue)
    | .and =>
      (eval depth scope left v).bind fun x =>
        if x.isTrue then (eval depth scope right v).map fun y => .ok (.bool y.isTrue)
        else .one (.bool false)
    | .compare c => both fun x y => .ok (.bool (c.holds (x.compare y)))
    | .math op => both fun x y => x.calculate op.operation y

/-- The parts of a text, each after the text so far. -/
def evalParts (depth : Nat) (scope : Scope) (format : Option String) (parts : List TextPart)
    (v : Value) (done : String) : Outputs :=
  match depth with
  | 0 => .stopped .depth
  | depth + 1 =>
    match parts with
    | [] => .one (.string done)
    | .chars s :: rest => evalParts depth scope format rest v (done ++ s)
    | .term t :: rest =>
      (eval depth scope t v).bind fun x =>
        match Format.write (format.getD "text") x with
        | .ok s => evalParts depth scope format rest v (done ++ s)
        | .error e => .error e

/-- The fields of an object, each after the fields so far. -/
def evalFields (depth : Nat) (scope : Scope) (fields : List (Term × Option Term)) (v : Value)
    (done : List (String × Value)) : Outputs :=
  match depth with
  | 0 => .stopped .depth
  | depth + 1 =>
    match fields with
    | [] => .one (.object done)
    | (key, value) :: rest =>
      (eval depth scope key v).bind fun k =>
        match k with
        | .string name =>
          let values := match value with
            | some t => eval depth scope t v
            | none => .ofExcept (v.index k)
          values.bind fun x => evalFields depth scope rest v (Entries.insert name x done)
        | k => .message s!"{k.text} is no key of an object"

/-- The steps of a path; what stands in brackets is computed from `v`, the input of the path. -/
def evalSteps (depth : Nat) (scope : Scope) (v : Value) (steps : List Step) (x : Value) : Outputs :=
  match depth with
  | 0 => .stopped .depth
  | depth + 1 =>
    match steps with
    | [] => .one x
    | .index i optional :: rest =>
      (eval depth scope i v).bind fun k =>
        ((Outputs.ofExcept (x.index k)).orNone optional).bind (evalSteps depth scope v rest)
    | .slice first last optional :: rest =>
      (evalBound depth scope first v).bind fun lo =>
        (evalBound depth scope last v).bind fun hi =>
          ((Outputs.ofExcept (x.slice lo hi)).orNone optional).bind (evalSteps depth scope v rest)
    | .iterate optional :: rest =>
      ((Outputs.ofExceptList x.parts).orNone optional).bind (evalSteps depth scope v rest)

/-- A bound of a slice; an open one is null. -/
def evalBound (depth : Nat) (scope : Scope) (bound : Option Term) (v : Value) : Outputs :=
  match depth, bound with
  | 0, _ => .stopped .depth
  | _ + 1, none => .one .null
  | depth + 1, some t => eval depth scope t v

/-- Binds the variables of a pattern to the parts of a value. -/
def matchPattern (depth : Nat) (scope : Scope) (pattern : Pattern) (x : Value)
    (k : Scope → Outputs) : Outputs :=
  match depth with
  | 0 => .stopped .depth
  | depth + 1 =>
    match pattern with
    | .variable name => k (.value name x :: scope)
    | .array items => matchItems depth scope 0 items x k
    | .object fields => matchFields depth scope fields x k

/-- Matches the items of an array from a position on. -/
def matchItems (depth : Nat) (scope : Scope) (position : Nat) (items : List Pattern) (x : Value)
    (k : Scope → Outputs) : Outputs :=
  match depth with
  | 0 => .stopped .depth
  | depth + 1 =>
    match items with
    | [] => k scope
    | p :: ps =>
      (Outputs.ofExcept (x.index (.int position))).bind fun y =>
        matchPattern depth scope p y fun scope => matchItems depth scope (position + 1) ps x k

/-- Matches the fields of an object one by one. -/
def matchFields (depth : Nat) (scope : Scope) (fields : List (Term × Pattern)) (x : Value)
    (k : Scope → Outputs) : Outputs :=
  match depth with
  | 0 => .stopped .depth
  | depth + 1 =>
    match fields with
    | [] => k scope
    | (key, p) :: rest =>
      (eval depth scope key x).bind fun i =>
        (Outputs.ofExcept (x.index i)).bind fun y =>
          matchPattern depth scope p y fun scope => matchFields depth scope rest x k

/-- The outputs of arguments, in all combinations. -/
def evalArguments (depth : Nat) (scope : Scope) (arguments : List Term) (v : Value)
    (k : List Value → Outputs) : Outputs :=
  match depth with
  | 0 => .stopped .depth
  | depth + 1 =>
    match arguments with
    | [] => k []
    | a :: rest =>
      (eval depth scope a v).bind fun x =>
        evalArguments depth scope rest v fun xs => k (x :: xs)

/-- The items of an array with the outputs of a filter on each, sorted by these. -/
def sortedBy (depth : Nat) (scope : Scope) (key : Term) (v : Value)
    (k : List (Value × Value) → Outputs) : Outputs :=
  match depth with
  | 0 => .stopped .depth
  | depth + 1 =>
    match v with
    | .array items =>
      let keyed := (Outputs.ofList items).bind fun x =>
        (eval depth scope key x).collect fun ks => .one (.array [.array ks, x])
      keyed.collect fun pairs =>
        let pairs := pairs.filterMap fun p => match p with
          | .array [a, b] => some (a, b)
          | _ => none
        k (pairs.mergeSort fun a b => a.1.le b.1)
    | v => .message s!"{v.text} is no array"

/-- The outputs of a filter that is not defined in the language. -/
def evalBuiltin (depth : Nat) (scope : Scope) (name : String) (arguments : List Term)
    (v : Value) : Outputs :=
  match depth with
  | 0 => .stopped .depth
  | depth + 1 =>
    match name, arguments with
    | "first", [f] => (eval depth scope f v).take 1
    | "limit", [n, f] =>
      (eval depth scope n v).bind fun count =>
        match count with
        | .int count => (eval depth scope f v).take count.toNat
        | count => .message s!"{count.text} is no count"
    | "skip", [n, f] =>
      (eval depth scope n v).bind fun count =>
        match count with
        | .int count => (eval depth scope f v).drop count.toNat
        | count => .message s!"{count.text} is no count"
    | "isempty", [f] =>
      match eval depth scope f v with
      | .done => .one (.bool true)
      | .stopped b => .stopped b
      | .output _ _ => .one (.bool false)
    | "range", [first, last] =>
      (eval depth scope first v).bind fun lo =>
        (eval depth scope last v).bind fun hi => countUp 0x100000000 lo hi
    | "path", [f] =>
      (locate depth scope f [] v).bind (onLocated fun path _ => .one (.array path))
    | "sort_by", [f] =>
      sortedBy depth scope f v fun pairs => .one (.array (pairs.map Prod.snd))
    | "group_by", [f] =>
      sortedBy depth scope f v fun pairs => .one (.array ((Builtin.group pairs).map .array))
    | name, arguments =>
      match Builtin.find? name arguments.length with
      | some b =>
        evalArguments depth scope arguments v fun args => .ofExceptList (b.run v args)
      | none =>
        .ofExcept ((Format.write (String.ofList (name.toList.drop 1)) v).map .string)

/-- The parts of a value that a term points at, with their paths after the path so far. -/
def locate (depth : Nat) (scope : Scope) (t : Term) (path : List Value) (v : Value) : Outputs :=
  match depth with
  | 0 => .stopped .depth
  | depth + 1 =>
    match t with
    | .identity => .one (located path v)
    | .recurse => locate depth scope (.call "recurse" []) path v
    | .binary .pipe left right =>
      (locate depth scope left path v).bind (onLocated (locate depth scope right))
    | .binary .comma left right =>
      (locate depth scope left path v).append fun _ => locate depth scope right path v
    | .binary .alternative left right =>
      match (locate depth scope left path v).filter isLocatedTrue with
      | .done => locate depth scope right path v
      | found => found
    | .bind source pattern body =>
      (eval depth scope source v).bind fun x =>
        matchPattern depth scope pattern x fun scope => locate depth scope body path v
    | .label name body =>
      (locate depth (.label name depth :: scope) body path v).untilJump depth
    | .breakTo name => .stopped (.jump ((scope.label? name).getD 0))
    | .reduce source pattern [start, step] =>
      (locate depth scope start path v).bind fun state =>
        (eval depth scope source v).fold (fun state x =>
          matchPattern depth scope pattern x fun scope =>
            onLocated (locate depth scope step) state) state
    | .attempt body handler =>
      (locate depth scope body path v).recover fun e =>
        match handler with
        -- A handler has no path of its own, since it starts from the error.
        | some h => locate depth scope h [] e
        | none => .done
    | .cond [] none => .one (located path v)
    | .cond [] (some otherwise) => locate depth scope otherwise path v
    | .cond ((c, body) :: branches) otherwise =>
      (eval depth scope c v).bind fun x =>
        if x.isTrue then locate depth scope body path v
        else locate depth scope (.cond branches otherwise) path v
    | .define definition body =>
      locate depth (Scope.ofDefinition definition :: scope) body path v
    -- The arguments are computed where the term stands, and only the body points at parts.
    | .call name arguments =>
      match scope.callee? name arguments.length with
      | some callee =>
        bindParameters (fun a => eval depth scope a v) scope
          (fun inner => locate depth inner callee.body path v) callee.parameters arguments
          callee.scope
      | none => locateBuiltin depth scope name arguments path v
    | .path base steps =>
      (locate depth scope base path v).bind (onLocated (locateSteps depth scope v steps))
    | _ => .message "this filter points at no part"

/-- The parts that a filter without a definition points at. -/
def locateBuiltin (depth : Nat) (scope : Scope) (name : String) (arguments : List Term)
    (path : List Value) (v : Value) : Outputs :=
  match depth with
  | 0 => .stopped .depth
  | depth + 1 =>
    let counted (n f : Term) (cut : Nat → Outputs → Outputs) : Outputs :=
      (eval depth scope n v).bind fun count =>
        match count with
        | .int count => cut count.toNat (locate depth scope f path v)
        | count => .message s!"{count.text} is no count"
    match name, arguments with
    | "empty", [] => .done
    | "error", _ => evalBuiltin depth scope name arguments v
    | "first", [f] => (locate depth scope f path v).take 1
    | "limit", [n, f] => counted n f Outputs.take
    | "skip", [n, f] => counted n f Outputs.drop
    | "getpath", [p] =>
      (eval depth scope p v).bind fun p =>
        match p with
        | .array more =>
          .ofExcept ((Builtin.getPath v more).map (located (path ++ more)))
        | p => .message s!"{p.text} is no path"
    | _, _ => .message "this filter points at no part"

/-- The parts that steps lead to, with their paths; what stands in brackets is computed from `v`. -/
def locateSteps (depth : Nat) (scope : Scope) (v : Value) (steps : List Step) (path : List Value)
    (x : Value) : Outputs :=
  match depth with
  | 0 => .stopped .depth
  | depth + 1 =>
    match steps with
    | [] => .one (located path x)
    | .index i optional :: rest =>
      (eval depth scope i v).bind fun k =>
        ((Outputs.ofExcept (x.index k)).orNone optional).bind
          (locateSteps depth scope v rest (path ++ [k]))
    | .slice first last optional :: rest =>
      (evalBound depth scope first v).bind fun lo =>
        (evalBound depth scope last v).bind fun hi =>
          ((Outputs.ofExcept (x.slice lo hi)).orNone optional).bind
            (locateSteps depth scope v rest (path ++ [sliceIndex lo hi]))
    | .iterate optional :: rest =>
      let parts := (indexedParts x).map fun parts =>
        parts.map fun (k, y) => located (path ++ [k]) y
      ((Outputs.ofExceptList parts).orNone optional).bind
        (onLocated (locateSteps depth scope v rest))

/-- Replaces the parts of a value that a term points at. -/
def update (depth : Nat) (scope : Scope) (t : Term) (f : Value → Outputs) (v : Value) : Outputs :=
  match depth with
  | 0 => .stopped .depth
  | depth + 1 =>
    match t with
    | .identity => f v
    | .recurse => update depth scope (.call "recurse" []) f v
    | .binary .pipe left right => update depth scope left (update depth scope right f) v
    | .binary .comma left right =>
      (update depth scope left f v).bind (update depth scope right f)
    | .binary .alternative left right =>
      match (eval depth scope left v).filter Value.isTrue with
      | .output _ _ => update depth scope left f v
      | .done => update depth scope right f v
      | .stopped b => .stopped b
    | .bind source pattern body =>
      (eval depth scope source v).fold (fun state x =>
        matchPattern depth scope pattern x fun scope => update depth scope body f state) v
    | .cond [] none => f v
    | .cond [] (some otherwise) => update depth scope otherwise f v
    | .cond ((c, body) :: branches) otherwise =>
      (eval depth scope c v).bind fun x =>
        if x.isTrue then update depth scope body f v
        else update depth scope (.cond branches otherwise) f v
    -- Where the body fails the value stays as it is.
    | .attempt body _ => (update depth scope body f v).recover fun _ => .one v
    | .define definition body => update depth (Scope.ofDefinition definition :: scope) body f v
    | .call name arguments =>
      match scope.callee? name arguments.length with
      | some callee =>
        bindParameters (fun a => eval depth scope a v) scope
          (fun inner => update depth inner callee.body f v) callee.parameters arguments callee.scope
      | none =>
        if name == "empty" then .one v
        else if name == "error" then evalBuiltin depth scope name arguments v
        else .message "this filter points at no part"
    | .path base steps => update depth scope base (updateSteps depth scope v steps f) v
    | _ => .message "this filter points at no part"

/-- Replaces the parts of a value that steps lead to. -/
def updateSteps (depth : Nat) (scope : Scope) (v : Value) (steps : List Step)
    (f : Value → Outputs) (x : Value) : Outputs :=
  match depth with
  | 0 => .stopped .depth
  | depth + 1 =>
    match steps with
    | [] => f x
    | .index i optional :: rest =>
      (eval depth scope i v).fold (fun x k =>
        (updateIndex (updateSteps depth scope v rest f) x k).orElse optional x) x
    | .slice first last optional :: rest =>
      (evalBound depth scope first v).bind fun lo =>
        (evalBound depth scope last v).bind fun hi =>
          (updateSlice (updateSteps depth scope v rest f) x lo hi).orElse optional x
    | .iterate optional :: rest =>
      (updateParts (updateSteps depth scope v rest f) x).orElse optional x

end

end ShapeSchema.Jq
