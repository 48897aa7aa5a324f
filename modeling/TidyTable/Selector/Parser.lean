import TidyTable.Selector.Basic
import TidyTable.Selector.Token

/-!
# Reading selectors

A selector is a list of alternatives between commas; each is a chain of compounds with combinators
between them, and a compound is a run of tests of one element. A selector that is not well formed is
refused as a whole, except within `:is` and `:where`, where an alternative that is not well formed
means no element.
-/

namespace TidyTable.Selector

/-- Drops the spaces in front. -/
def skipSpace : List Tree → List Tree
  | .leaf .space :: ts => skipSpace ts
  | ts => ts

/-! ## Attributes -/

/-- What a mark with an equals sign compares, or an equals sign alone. -/
def comparison? : Token → Option Comparison
  | .mark '=' => some .equal
  | .comparison '~' => some .word
  | .comparison '|' => some .dashed
  | .comparison '^' => some .start
  | .comparison '$' => some .ending
  | .comparison '*' => some .part
  | _ => none

/-- What stands behind the value of an attribute. -/
def caseRule? (ts : List Tree) : Option CaseRule :=
  match skipSpace ts with
  | [] => some .byName
  | .leaf (.ident flag) :: rest =>
    if (skipSpace rest).isEmpty then
      match AttributeTest.lowered flag with
      | "i" => some .ignored
      | "s" => some .counts
      | _ => none
    else none
  | _ => none

/-- What stands behind the name of an attribute. -/
def attributeTest? (name : String) (anySpace : Bool) (ts : List Tree) : Option AttributeTest :=
  match skipSpace ts with
  | [] => some { name, anySpace }
  | .leaf sign :: rest => do
    let comparison ← comparison? sign
    match skipSpace rest with
    | .leaf (.ident value) :: rest | .leaf (.text value) :: rest =>
      some { name, anySpace, comparison := some (comparison, value), caseRule := ← caseRule? rest }
    | _ => none
  | _ => none

/-- A test of an attribute, from between its brackets. -/
def attribute? (ts : List Tree) : Option AttributeTest :=
  match skipSpace ts with
  | .leaf (.ident _) :: .leaf (.mark '|') :: _ => none
  | .leaf (.ident name) :: rest => attributeTest? name false rest
  | .leaf (.mark '*') :: .leaf (.mark '|') :: .leaf (.ident name) :: rest =>
    attributeTest? name true rest
  | .leaf (.mark '|') :: .leaf (.ident name) :: rest => attributeTest? name false rest
  | _ => none

/-! ## Places -/

/-- The number in a name of the form `n-1`, with its sign. -/
def dashedNumber? (unit : String) : Option Int :=
  match unit.toList with
  | n :: '-' :: digits =>
    if (n == 'n' || n == 'N') && !digits.isEmpty && digits.all Char.isDigit then
      some (integer true digits)
    else none
  | _ => none

/-- A number without a sign, as the end of an expression. -/
def unsigned? (ts : List Tree) : Option Int :=
  match skipSpace ts with
  | .leaf (.number false value) :: rest => if (skipSpace rest).isEmpty then some value else none
  | _ => none

/-- What stands behind the step of an expression. -/
def offset? (ts : List Tree) : Option Int :=
  match skipSpace ts with
  | [] => some 0
  | .leaf (.mark '+') :: rest => unsigned? rest
  | .leaf (.mark '-') :: rest => (unsigned? rest).map (-·)
  | .leaf (.number true value) :: rest => if (skipSpace rest).isEmpty then some value else none
  | _ => none

/-- An expression whose step is given and whose rest begins with a unit. -/
def stepped? (step : Int) (unit : String) (rest : List Tree) : Option (Int × Int) :=
  match AttributeTest.lowered unit with
  | "n" => (offset? rest).map (step, ·)
  | "n-" => (unsigned? rest).map fun b => (step, -b)
  | _ => if (skipSpace rest).isEmpty then (dashedNumber? unit).map (step, ·) else none

/-- The step and the first place of an expression such as `2n+1`. -/
def progression? (ts : List Tree) : Option (Int × Int) :=
  match skipSpace ts with
  | .leaf (.number _ value) :: rest => if (skipSpace rest).isEmpty then some (0, value) else none
  | .leaf (.measure step unit) :: rest => stepped? step unit rest
  | .leaf (.mark '+') :: .leaf (.ident unit) :: rest => stepped? 1 unit rest
  | .leaf (.ident unit) :: rest =>
    match AttributeTest.lowered unit with
    | "even" => if (skipSpace rest).isEmpty then some (2, 0) else none
    | "odd" => if (skipSpace rest).isEmpty then some (2, 1) else none
    | _ =>
      match unit.toList with
      | '-' :: cs => stepped? (-1) (String.ofList cs) rest
      | _ => stepped? 1 unit rest
  | _ => none

/-! ## Tests of one element -/

/-- How a list of alternatives within a test is read. -/
inductive ListKind where
  /-- Every alternative must be well formed. -/
  | strict
  /-- An alternative that is not well formed means no element. -/
  | forgiving
  /-- Every alternative begins, in mind, with the element that is tested. -/
  | anchored
deriving DecidableEq, Repr

/-- A reader of the alternatives between the brackets of a test. -/
abbrev ListReader := ListKind → List Tree → Option Selector

/-- A test that has a name alone. -/
def named? (name : String) : Option Selector :=
  match AttributeTest.lowered name with
  | "first-child" => some (.placed {})
  | "last-child" => some (.placed { fromEnd := true })
  | "only-child" => some (.both (.placed {}) (.placed { fromEnd := true }))
  | "first-of-type" => some (.placed { ofType := true })
  | "last-of-type" => some (.placed { ofType := true, fromEnd := true })
  | "only-of-type" =>
    some (.both (.placed { ofType := true }) (.placed { ofType := true, fromEnd := true }))
  | "empty" => some .childless
  | "root" | "scope" => some .nothing
  | _ => none

/-- A test that has a name and something between brackets. -/
def called? (list : ListReader) (name : String) (inner : List Tree) : Option Selector :=
  let places := fun (ofType fromEnd : Bool) =>
    (progression? inner).map fun (step, first) => Selector.placed { step, first, ofType, fromEnd }
  match AttributeTest.lowered name with
  | "nth-child" => places false false
  | "nth-last-child" => places false true
  | "nth-of-type" => places true false
  | "nth-last-of-type" => places true true
  | "is" | "where" => list .forgiving inner
  | "not" => (list .strict inner).map .except
  | "has" => (list .anchored inner).map .having
  | _ => none

/-- The tests behind the name of an element, and what follows them. -/
def tests? (list : ListReader) : List Tree → Option (List Selector × List Tree)
  | .leaf (.hash n) :: ts => (tests? list ts).map fun (more, rest) => (.withId n :: more, rest)
  | .leaf (.mark '.') :: .leaf (.ident n) :: ts =>
    (tests? list ts).map fun (more, rest) => (.ofClass n :: more, rest)
  | .leaf (.mark '.') :: _ => none
  | .block none .square inner :: ts => do
    let test ← attribute? inner
    let (more, rest) ← tests? list ts
    some (.withAttribute test :: more, rest)
  | .leaf .colon :: .leaf (.ident n) :: ts => do
    let test ← named? n
    let (more, rest) ← tests? list ts
    some (test :: more, rest)
  | .leaf .colon :: .block (some n) .round inner :: ts => do
    let test ← called? list n inner
    let (more, rest) ← tests? list ts
    some (test :: more, rest)
  | .leaf .colon :: _ => none
  | ts => some ([], ts)

/-- The name of an element, if there is one, and what follows it. Every name is in some vocabulary,
so one that is asked for without a vocabulary means no element. -/
def elementName? : List Tree → Option (List Selector × List Tree)
  | .leaf (.ident _) :: .leaf (.mark '|') :: _ => none
  | .leaf (.ident n) :: ts => some ([.named n], ts)
  | .leaf (.mark '*') :: .leaf (.mark '|') :: .leaf (.ident n) :: ts => some ([.named n], ts)
  | .leaf (.mark '*') :: .leaf (.mark '|') :: .leaf (.mark '*') :: ts => some ([.everything], ts)
  | .leaf (.mark '*') :: .leaf (.mark '|') :: _ => none
  | .leaf (.mark '*') :: ts => some ([.everything], ts)
  | .leaf (.mark '|') :: .leaf (.ident _) :: ts => some ([.nothing], ts)
  | .leaf (.mark '|') :: .leaf (.mark '*') :: ts => some ([.nothing], ts)
  | .leaf (.mark '|') :: _ => none
  | ts => some ([], ts)

/-- A compound and what follows it. It has at least one test. -/
def compound? (list : ListReader) (ts : List Tree) : Option (Selector × List Tree) := do
  let (head, ts) ← elementName? (skipSpace ts)
  let (tests, rest) ← tests? list ts
  match head ++ tests with
  | [] => none
  | first :: more => some (more.foldl .both first, rest)

/-! ## Chains and lists -/

/-- A combinator and what follows it, unless the chain ends. Space alone is one if more follows. -/
def combinator? (ts : List Tree) : Option (Combinator × List Tree) :=
  match skipSpace ts with
  | .leaf (.mark '>') :: rest => some (.child, rest)
  | .leaf (.mark '+') :: rest => some (.next, rest)
  | .leaf (.mark '~') :: rest => some (.later, rest)
  | [] => none
  | rest => if rest.length < ts.length then some (.descendant, rest) else none

/-- The rest of a chain, of at most so many compounds, to the right of a selector. -/
def chain? (list : ListReader) (left : Selector) (ts : List Tree) : Nat → Option Selector
  | 0 => none
  | n + 1 =>
    match combinator? ts with
    | none => if (skipSpace ts).isEmpty then some left else none
    | some (c, rest) => do
      let (right, rest) ← compound? list rest
      chain? list (.related left c right) rest n

/-- One alternative. -/
def alternative? (list : ListReader) (ts : List Tree) : Option Selector := do
  let (first, rest) ← compound? list ts
  chain? list first rest (rest.length + 1)

/-- One alternative that begins with the element that is tested. -/
def anchored? (list : ListReader) (ts : List Tree) : Option Selector := do
  let ts := skipSpace ts
  let (c, rest) := (combinator? ts).getD (.descendant, ts)
  let (right, rest) ← compound? list rest
  chain? list (.related .anchor c right) rest (rest.length + 1)

mutual

/-- Whether a word is broken, or some word between its brackets is. -/
def isBroken : Tree → Bool
  | .leaf .broken | .leaf (.closing _) => true
  | .leaf _ => false
  | .block _ _ content => anyBroken content

/-- Whether some word is broken. -/
def anyBroken : List Tree → Bool
  | [] => false
  | t :: ts => isBroken t || anyBroken ts

end

/-- The words between commas. -/
def alternatives : List Tree → List (List Tree)
  | [] => [[]]
  | .leaf .comma :: ts => [] :: alternatives ts
  | t :: ts =>
    match alternatives ts with
    | [] => [[t]]
    | group :: groups => (t :: group) :: groups

/-- One alternative of a list. -/
def listed? (list : ListReader) (kind : ListKind) (ts : List Tree) : Option Selector :=
  match kind with
  | .strict => alternative? list ts
  | .anchored => anchored? list ts
  | .forgiving =>
    match alternative? list ts with
    | some s => some s
    | none => if anyBroken ts then none else some .nothing

/-- Reads a list with brackets nested at most so deep. A test that is anchored may not hold another
one. -/
def list? : Nat → Bool → ListReader
  | 0, _, _, _ => none
  | depth + 1, anchored, kind, ts =>
    if kind == .anchored && anchored then none
    else do
      let inner := list? depth (anchored || kind == .anchored)
      let found ← (alternatives ts).mapM (listed? inner kind)
      match found with
      | [] => none
      | first :: more => some (more.foldl .either first)

/-- Reads a selector. Brackets nest no deeper than there are characters. -/
def parse? (s : String) : Option Selector :=
  let cs := s.toList
  list? (cs.length + 1) false .strict (trees cs)

end TidyTable.Selector
