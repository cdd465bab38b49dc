import VoxelScore.Yaml.Token

/-!
# Trees of documents

The grammar over tokens. A missing item, key or value is an absent node; what may be missing is told
by the token that stands there instead.

## Main definitions

* `Node.ofText` — the tree of a document.
-/

namespace VoxelScore.Yaml

namespace Node

/-- Nothing stands between a dash and this token. -/
def endsItem : List Token → Bool
  | .entry :: _ => true
  | .blockEnd :: _ => true
  | _ => false

/-- Nothing stands between the mark of a key or value in a block and this token; an item of an
unindented sequence ends here too. -/
def endsField : List Token → Bool
  | .key :: _ => true
  | .value :: _ => true
  | .blockEnd :: _ => true
  | _ => false

/-- Nothing stands between the mark of a key or value in a flow collection and this token. -/
def endsFlowField : List Token → Bool
  | .comma :: _ => true
  | .flowSequenceEnd :: _ => true
  | .flowMappingEnd :: _ => true
  | _ => false

mutual

/-- A node. Only in a block can it be a block collection; as a key or value of one (`field`) it can
also be a sequence whose dashes stand no further in. -/
def node (fuel : Nat) (block field : Bool) (tokens : List Token) :
    Except Fault (Node × List Token) :=
  match fuel with
  | 0 => .error .unexpectedToken
  | fuel + 1 =>
    match tokens with
    | .scalar datum :: r => .ok (.scalar datum, r)
    | .flowSequence :: r => do
      let (items, r) ← flowItems fuel true r
      return (.sequence items, r)
    | .flowMapping :: r => do
      let (entries, r) ← flowEntries fuel true r
      return (.mapping entries, r)
    | .entry :: r =>
      if field then do
        let (items, r) ← looseItems fuel (.entry :: r)
        return (.sequence items, r)
      else .error .unexpectedToken
    | .blockSequence :: r =>
      if block then do
        let (items, r) ← blockItems fuel r
        return (.sequence items, r)
      else .error .unexpectedToken
    | .blockMapping :: r =>
      if block then do
        let (entries, r) ← blockEntries fuel r
        return (.mapping entries, r)
      else .error .unexpectedToken
    | _ => .error .unexpectedToken

/-- The items of a sequence up to the end of its block. -/
def blockItems (fuel : Nat) (tokens : List Token) : Except Fault (List Node × List Token) :=
  match fuel with
  | 0 => .error .unexpectedToken
  | fuel + 1 =>
    match tokens with
    | .blockEnd :: r => .ok ([], r)
    | .entry :: r => do
      let (item, r) ← if endsItem r then .ok (.absent, r) else node fuel true false r
      let (items, r) ← blockItems fuel r
      return (item :: items, r)
    | _ => .error .unexpectedToken

/-- The items of a sequence whose dashes stand no further in than the key before it. -/
def looseItems (fuel : Nat) (tokens : List Token) : Except Fault (List Node × List Token) :=
  match fuel with
  | 0 => .error .unexpectedToken
  | fuel + 1 =>
    match tokens with
    | .entry :: r => do
      let (item, r) ←
        if endsItem r || endsField r then .ok (.absent, r) else node fuel true false r
      let (items, r) ← looseItems fuel r
      return (item :: items, r)
    | r => .ok ([], r)

/-- The entries of a mapping up to the end of its block. -/
def blockEntries (fuel : Nat) (tokens : List Token) :
    Except Fault (List (Node × Node) × List Token) :=
  match fuel with
  | 0 => .error .unexpectedToken
  | fuel + 1 =>
    match tokens with
    | .blockEnd :: r => .ok ([], r)
    | .key :: r => do
      let (key, r) ← if endsField r then .ok (.absent, r) else node fuel true true r
      let (value, r) ← match r with
        | .value :: r => if endsField r then .ok (.absent, r) else node fuel true true r
        | r => .ok (.absent, r)
      let (entries, r) ← blockEntries fuel r
      return ((key, value) :: entries, r)
    | _ => .error .unexpectedToken

/-- The items of a flow sequence up to its bracket, behind a comma unless they are the first. A key
starts a mapping of one entry; a mark in the place of the key is dropped, even the bracket. -/
def flowItems (fuel : Nat) (first : Bool) (tokens : List Token) :
    Except Fault (List Node × List Token) :=
  match fuel with
  | 0 => .error .unexpectedToken
  | fuel + 1 => do
    let r ← match first, tokens with
      | _, .flowSequenceEnd :: _ => .ok tokens
      | true, r => .ok r
      | false, .comma :: r => .ok r
      | false, _ => .error .unexpectedToken
    match r with
    | .flowSequenceEnd :: r => return ([], r)
    | .key :: r =>
      let (key, r) ← match r with
        | .value :: r => .ok (.absent, r)
        | .comma :: r => .ok (.absent, r)
        | .flowSequenceEnd :: r => .ok (.absent, r)
        | r => node fuel false false r
      let (value, r) ← flowValue fuel r
      let (items, r) ← flowItems fuel false r
      return (.mapping [(key, value)] :: items, r)
    | r =>
      let (item, r) ← node fuel false false r
      let (items, r) ← flowItems fuel false r
      return (item :: items, r)

/-- The entries of a flow mapping up to its brace, behind a comma unless they are the first. -/
def flowEntries (fuel : Nat) (first : Bool) (tokens : List Token) :
    Except Fault (List (Node × Node) × List Token) :=
  match fuel with
  | 0 => .error .unexpectedToken
  | fuel + 1 => do
    let r ← match first, tokens with
      | _, .flowMappingEnd :: _ => .ok tokens
      | true, r => .ok r
      | false, .comma :: r => .ok r
      | false, _ => .error .unexpectedToken
    match r with
    | .flowMappingEnd :: r => return ([], r)
    | .key :: r =>
      let missing := match r with
        | .value :: _ => true
        | r => endsFlowField r
      let (key, r) ← if missing then .ok (.absent, r) else node fuel false false r
      let (value, r) ← flowValue fuel r
      let (entries, r) ← flowEntries fuel false r
      return ((key, value) :: entries, r)
    | r =>
      let (key, r) ← node fuel false false r
      let (entries, r) ← flowEntries fuel false r
      return ((key, .absent) :: entries, r)

/-- The value behind a key in a flow collection. -/
def flowValue (fuel : Nat) (tokens : List Token) : Except Fault (Node × List Token) :=
  match fuel with
  | 0 => .error .unexpectedToken
  | fuel + 1 =>
    match tokens with
    | .value :: r => if endsFlowField r then .ok (.absent, r) else node fuel false false r
    | r => .ok (.absent, r)

end

/-- The tree at the start of a document. -/
def root (fuel : Nat) : List Token → Except Fault (Node × List Token)
  | [] => .ok (.absent, [])
  | .documentStart :: [] => .ok (.absent, [])
  | .documentStart :: .documentEnd :: r => .ok (.absent, .documentEnd :: r)
  | .documentStart :: .documentStart :: r => .ok (.absent, .documentStart :: r)
  | .documentStart :: r => node fuel true false r
  | r => node fuel true false r

/-- The tree of a document. A document without content is absent; only end marks may follow it. -/
def ofText (t : Text) : Except Fault Node := do
  let tokens ← tokens t
  let (node, r) ← root (2 * tokens.length + 2) tokens
  if r.all (fun token => token matches .documentEnd) then return node
  else if r.any (fun token => token matches .documentStart) then .error .secondDocument
  else .error .unexpectedToken

end Node

end VoxelScore.Yaml
