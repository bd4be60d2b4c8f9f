import Walkthrough.Document.Node
import Walkthrough.Document.Yaml.Scalar

namespace Walkthrough.Document.Yaml

/-- Where the reader is, and the nodes that have been given names. -/
structure Reading where
  cursor : Cursor
  anchors : List (String × Node)

abbrev Scan := StateT Reading Option

/-- A name and a type written before a node. -/
structure Properties where
  anchor : Option String
  tag : Option String

namespace Properties

def none : Properties :=
  ⟨.none, .none⟩

def isNone (p : Properties) : Bool :=
  p.anchor.isNone && p.tag.isNone

/-- A scalar without quotes that is said to be text is text. -/
def typed (p : Properties) : Node → Node
  | .plain s => if p.tag.any ["!", "!!str"].contains then .text s else .plain s
  | n => n

end Properties

namespace Scan

def cursor : Scan Cursor := do
  return (← get).cursor

def moveTo (c : Cursor) : Scan Unit :=
  modify fun r => { r with cursor := c }

def skip (n : Nat) : Scan Unit := do
  moveTo ((← cursor).skip n)

def gap (flow tabs : Bool) : Scan Unit := do
  moveTo ((← cursor).gap flow tabs)

def take (read : Cursor → Option (String × Cursor)) : Scan String := do
  let (s, after) ← read (← cursor)
  moveTo after
  return s

def word (p : Char → Bool) : Scan String := do
  let w := (← cursor).rest.takeWhile p
  skip w.length
  return String.ofList w

def isNameChar (c : Char) : Bool :=
  c.isAlphanum || c == '_' || c == '-'

def name : Scan String := do
  let s ← word isNameChar
  let c ← cursor
  if s.isEmpty then failure
  if !atGap c.rest && !c.rest.head?.any ['?', ':', ',', ']', '\x7d', '%', '@', '\x60'].contains then failure
  return s

/-- The properties before a node, and the gap after each; `count` bounds their number. -/
def properties (flow : Bool) : (count : Nat) → Properties → Scan Properties
  | 0, p => return p
  | count + 1, p => do
    match (← cursor).rest with
    | '&' :: _ =>
      if p.anchor.isSome then failure
      skip 1
      let n ← name
      gap flow true
      properties flow count { p with anchor := some n }
    | '!' :: _ =>
      if p.tag.isSome then failure
      let t ← word fun c => !isGap c && !(flow && isFlowMark c)
      gap flow true
      properties flow count { p with tag := some t }
    | _ => return p

/-- A node as its properties say, which is known by its name from here on. -/
def settle (p : Properties) (n : Node) : Scan Node := do
  let n := p.typed n
  if let some a := p.anchor then modify fun r => { r with anchors := (a, n) :: r.anchors }
  return n

def anchored : Scan Node := do
  skip 1
  let n ← name
  (← get).anchors.lookup n

def keyText : Node → Scan String
  | .plain s | .text s => return s
  | _ => failure

/-- Goes on after an entry in flow context: to the next one after a comma, or past `close`. -/
def flowNext (close : Char) : Scan Bool := do
  gap true true
  match (← cursor).rest with
  | c :: _ =>
    skip 1
    if c == close then return false
    if c != ',' then failure
    gap true true
    return true
  | [] => failure

mutual

/-- A node in flow context; nothing stands for an empty scalar. -/
def flowNode : (fuel : Nat) → Scan Node
  | 0 => failure
  | fuel + 1 => do
    let p ← properties true 2 .none
    let c ← cursor
    if c.isDone then failure
    if c.rest.head?.any fun d => [',', ']', '\x7d', ':'].contains d then settle p (.plain "")
    else settle p (← content fuel true 0)

/-- A node without its properties, which is no collection in block context. -/
def content : (fuel : Nat) → (flow : Bool) → (indent : Nat) → Scan Node
  | 0, _, _ => failure
  | fuel + 1, flow, indent => do
    let c ← cursor
    match c.rest with
    | '*' :: _ => anchored
    | '"' :: rest => .text <$> take fun c => doubleFrom [] .none c.line (c.column + 1) rest
    | '\'' :: rest => .text <$> take fun c => singleFrom [] .none c.line (c.column + 1) rest
    | '[' :: _ =>
      skip 1
      gap true true
      .sequence <$> flowItems fuel []
    | '\x7b' :: _ =>
      skip 1
      gap true true
      .table <$> flowFields fuel []
    | cs =>
      if !flow && cs.head? == some '|' then .text <$> take (block false indent)
      else if !flow && cs.head? == some '>' then .text <$> take (block true indent)
      else if startsPlain flow cs then .plain <$> take (plain flow indent)
      else failure

/-- The value after a key in flow context, if the key ended on the line it began in. -/
def flowValue? : (fuel : Nat) → (keyLine : Nat) → Scan (Option Node)
  | 0, _ => failure
  | fuel + 1, keyLine => do
    gap true true
    let c ← cursor
    if c.rest.head? == some ':' then
      if c.line != keyLine then failure
      skip 1
      gap true true
      some <$> flowNode fuel
    else return none

def flowItems : (fuel : Nat) → (back : List Node) → Scan (List Node)
  | 0, _ => failure
  | fuel + 1, back => do
    let c ← cursor
    match c.rest with
    | ']' :: _ =>
      skip 1
      return back.reverse
    | ',' :: _ => failure
    | _ =>
      let key ← flowNode fuel
      let item ← match ← flowValue? fuel c.line with
        | some value => do pure (.table [(← keyText key, value)])
        | none => pure key
      if ← flowNext ']' then flowItems fuel (item :: back)
      else return (item :: back).reverse

def flowFields : (fuel : Nat) → (back : List (String × Node)) → Scan (List (String × Node))
  | 0, _ => failure
  | fuel + 1, back => do
    let c ← cursor
    match c.rest with
    | '\x7d' :: _ =>
      skip 1
      return back.reverse
    | ',' :: _ => failure
    | _ =>
      let key ← flowNode fuel
      let value := (← flowValue? fuel c.line).getD (.plain "")
      let entry := (← keyText key, value)
      if ← flowNext '\x7d' then flowFields fuel (entry :: back)
      else return (entry :: back).reverse

end

/-- Whether a node that began in `line` is a key: a colon and a gap come next in its line. -/
def isKey (line : Nat) : Scan Bool := do
  let c := (← cursor).spaces
  return c.line == line && c.isIndicator ':'

/-- A key, which has to end on the line it begins in, and the colon after it. -/
def key (fuel indent : Nat) : Scan String := do
  let line := (← cursor).line
  let p ← properties false 2 .none
  let k ← if ← isKey line then settle p (.plain "") else do
    settle p (← content fuel false indent)
  if !(← isKey line) then failure
  moveTo ((← cursor).spaces.skip 1)
  keyText k

mutual

/-- A node in block context, in column `indent` at least. A collection is told by the column that
its entries start in; it may begin in this line where `opens` says so. -/
def blockNode : (fuel : Nat) → (indent : Nat) → (opens : Bool) → Scan Node
  | 0, _, _ => failure
  | fuel + 1, indent, opens => do
    let start ← get
    let c := start.cursor
    if opens && c.isIndicator '-' then blockItems fuel c.column []
    else if opens && (c.isIndicator '?' || c.isIndicator ':') then blockFields fuel c.column []
    else do
      let p ← properties false 2 .none
      let here ← cursor
      if here.isDone || here.column < indent then settle p (.plain "")
      else if here.line != c.line then settle p (← blockNode fuel indent true)
      else
        let n ← if p.isNone || !(← isKey c.line) then content fuel false indent
          else pure (.plain "")
        if opens && (← isKey c.line) then
          set start
          blockFields fuel c.column []
        else settle p n

/-- The entries of a sequence that starts in `column`. -/
def blockItems : (fuel : Nat) → (column : Nat) → (back : List Node) → Scan Node
  | 0, _, _ => failure
  | fuel + 1, column, back => do
    let c ← cursor
    if !c.isDone && c.column == column && c.isIndicator '-' then
      skip 1
      gap false false
      let c ← cursor
      let item ← if c.isDone || c.column ≤ column then pure (.plain "")
        else blockNode fuel (column + 1) true
      gap false true
      blockItems fuel column (item :: back)
    else return .sequence back.reverse

/-- The value after a colon in a mapping that starts in `column`. A sequence may start there too. -/
def blockValue : (fuel : Nat) → (column : Nat) → (opens : Bool) → Scan Node
  | 0, _, _ => failure
  | fuel + 1, column, opens => do
    let line := (← cursor).line
    gap false !opens
    let c ← cursor
    let crossed := c.line != line
    if c.isDone then return .plain ""
    else if column < c.column then blockNode fuel (column + 1) (opens || crossed)
    else if crossed && c.column == column && c.isIndicator '-' then blockItems fuel column []
    else return .plain ""

def blockFields : (fuel : Nat) → (column : Nat) → (back : List (String × Node)) → Scan Node
  | 0, _, _ => failure
  | fuel + 1, column, back => do
    let c ← cursor
    if c.isDone || c.column != column then return .table back.reverse
    let (k, v) ← if c.isIndicator '?' then do
        skip 1
        let k ← keyText (← blockValue fuel column true)
        gap false true
        let c ← cursor
        if !c.isDone && c.column == column && c.isIndicator ':' then
          skip 1
          pure (k, ← blockValue fuel column true)
        else pure (k, .plain "")
      else do
        let k ← key fuel (column + 1)
        pure (k, ← blockValue fuel column false)
    gap false true
    blockFields fuel column ((k, v) :: back)

end

/-- Lines that begin with a percent sign; a line of hyphens has to follow them. -/
def directives : (fuel : Nat) → Scan Bool
  | 0 => return false
  | fuel + 1 => do
    let c ← cursor
    if c.column == 0 && c.rest.head? == some '%' then
      let _ ← word (· != '\n')
      gap false false
      let _ ← directives fuel
      return true
    else return false

def ending : (fuel : Nat) → Scan Unit
  | 0 => return
  | fuel + 1 => do
    if (← cursor).isMark "..." then
      skip 3
      gap false true
      ending fuel

def document (fuel : Nat) : Scan Node := do
  gap false false
  let directed ← directives fuel
  let explicit := (← cursor).isMark "---"
  if directed && !explicit then failure
  let line := (← cursor).line
  if explicit then
    skip 3
    gap false true
  let c ← cursor
  let n ← if c.isDone then pure (.plain "") else blockNode fuel 0 (!explicit || c.line != line)
  gap false true
  ending fuel
  if !(← cursor).rest.isEmpty then failure
  return n

end Scan

def parse? (s : String) : Option Node :=
  let cs := match s.toList with
    | '\ufeff' :: rest => rest
    | cs => cs
  if !cs.all isAllowed then none
  else
    let cs := withLineFeeds cs
    ((Scan.document (4 * cs.length + 8)).run ⟨Cursor.ofChars cs, []⟩).map (·.1)

end Walkthrough.Document.Yaml
