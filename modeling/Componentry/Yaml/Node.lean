import Componentry.Yaml.Token

/-!
The document of a token sequence. Anchors stand for the nodes they name, and a node without content
is an empty plain scalar.
-/
namespace Componentry.Yaml

inductive Node where
  /-- The tag is given, or left to the text if the scalar is plain. -/
  | scalar (tag : Option Text) (plain : Bool) (s : Text)
  | list (tag : Option Text) (items : List Node)
  | map (tag : Option Text) (entries : List (Node × Node))
  /-- A node inside itself. -/
  | cycle
  deriving Inhabited

def Node.empty : Node := .scalar none true []

/-- The anchors met so far; those of nodes still being read have no node yet. -/
abbrev Anchors := List (Text × Option Node)

structure Reader where
  tokens : List Token
  anchors : Anchors
  handles : List (Text × Text)

namespace Reader

def head? (r : Reader) : Option Token := r.tokens.head?

/-- The fault that the next token brings, or the given one. -/
def faultOr (r : Reader) (f : Fault) : Fault :=
  match r.head? with
  | some (.broken g) => g
  | _ => f

def next (r : Reader) : Reader := { r with tokens := r.tokens.tail }

def define (r : Reader) (anchor : Option Text) (n : Option Node) : Reader :=
  match anchor with
  | none => r
  | some a => { r with anchors := (a, n) :: r.anchors }

/-- A tag with its handle replaced by what it is short for. -/
def resolveTag (r : Reader) : Option Text → Text → Except Fault Text
  | none, suffix => .ok suffix
  | some h, suffix =>
    match r.handles.lookup h with
    | some uri => .ok (uri ++ suffix)
    | none => .error .tag

/-- The anchor and the tag before a node, in either order. -/
def properties (r : Reader) : Except Fault ((Option Text × Option Text) × Reader) :=
  let anchored (a : Text) (tag : Option Text) (after : Reader) :
      Except Fault ((Option Text × Option Text) × Reader) :=
    if r.anchors.any (·.1 = a) then .error (after.faultOr (.anchor a)) else .ok ((some a, tag), after)
  match r.tokens with
  | .anchor a :: .tag h s :: _ => do anchored a (some (← r.resolveTag h s)) r.next.next
  | .tag h s :: .anchor a :: _ => do anchored a (some (← r.resolveTag h s)) r.next.next
  | .anchor a :: _ => anchored a none r.next
  | .tag h s :: _ =>
    match r.resolveTag h s with
    | .ok tag => .ok ((none, some tag), r.next)
    | .error f => .error (r.next.faultOr f)
  | _ => .ok ((none, none), r)

/-- The tag `!` leaves the kind to the content. -/
def ownTag (tag : Option Text) : Option Text := if tag = some ['!'] then none else tag

end Reader

open Reader

/-- No content follows where an entry of a block may end. -/
def endsEntry (ends : List Token) (r : Reader) : Bool :=
  match r.head? with
  | none => false
  | some t => t ∈ ends

mutual
/-- A node. Lists and maps in blocks may stand here if `block` holds, and a list at the column of its
key if `flat` holds. -/
def node (block flat : Bool) : Nat → Reader → Except Fault (Node × Reader)
  | 0, _ => .error .content
  | fuel + 1, r =>
    match r.head? with
    | some (.alias name) =>
      match r.anchors.lookup name with
      | none => .error (.alias name)
      | some none => .ok (.cycle, r.next)
      | some (some n) => .ok (n, r.next)
    | _ => do
      let ((anchor, tag), r) ← r.properties
      let r := r.define anchor none
      let own := ownTag tag
      let finish (n : Node) (r : Reader) : Except Fault (Node × Reader) := .ok (n, r.define anchor (some n))
      let bare (r : Reader) : Except Fault (Node × Reader) :=
        if anchor.isSome || tag.isSome then finish (.scalar own own.isNone []) r
        else .error (r.faultOr .content)
      match r.head? with
      | some (.scalar s plain) => finish (.scalar own (plain && tag.isNone || tag = some ['!']) s) r.next
      | some .flowList => do
        let (items, r) ← flowItems true fuel r.next
        finish (.list own items) r
      | some .flowMap => do
        let (entries, r) ← flowEntries true fuel r.next
        finish (.map own entries) r
      | some t =>
        if flat && t = .dash then do
          let (items, r) ← flatItems fuel r
          finish (.list own items) r
        else if block && t = .blockList then do
          let (items, r) ← blockItems fuel r.next
          finish (.list own items) r
        else if block && t = .blockMap then do
          let (entries, r) ← blockEntries fuel r.next
          finish (.map own entries) r
        else bare r
      | none => bare r

def blockItems : Nat → Reader → Except Fault (List Node × Reader)
  | 0, _ => .error .content
  | fuel + 1, r =>
    match r.head? with
    | some .dash => do
      let (n, r) ←
        if endsEntry [.dash, .blockEnd] r.next then .ok (.empty, r.next) else node true false fuel r.next
      let (ns, r) ← blockItems fuel r
      return (n :: ns, r)
    | some .blockEnd => .ok ([], r.next)
    | _ => .error (r.faultOr .content)

/-- The items of a list that stands at the column of its key; its end has no token. -/
def flatItems : Nat → Reader → Except Fault (List Node × Reader)
  | 0, _ => .error .content
  | fuel + 1, r =>
    match r.head? with
    | some .dash => do
      let (n, r) ←
        if endsEntry [.dash, .key, .value, .blockEnd] r.next then .ok (.empty, r.next)
        else node true false fuel r.next
      let (ns, r) ← flatItems fuel r
      return (n :: ns, r)
    | _ => .ok ([], r)

def blockEntries : Nat → Reader → Except Fault (List (Node × Node) × Reader)
  | 0, _ => .error .content
  | fuel + 1, r =>
    match r.head? with
    | some .key => do
      let (k, r) ←
        if endsEntry [.key, .value, .blockEnd] r.next then .ok (.empty, r.next)
        else node true true fuel r.next
      let (v, r) ← blockValue fuel r
      let (rest, r) ← blockEntries fuel r
      return ((k, v) :: rest, r)
    | some .blockEnd => .ok ([], r.next)
    | _ => .error (r.faultOr .content)

def blockValue : Nat → Reader → Except Fault (Node × Reader)
  | 0, _ => .error .content
  | fuel + 1, r =>
    match r.head? with
    | some .value =>
      if endsEntry [.key, .value, .blockEnd] r.next then .ok (.empty, r.next)
      else node true true fuel r.next
    | _ => .ok (.empty, r)

def flowItems (first : Bool) : Nat → Reader → Except Fault (List Node × Reader)
  | 0, _ => .error .content
  | fuel + 1, r =>
    if r.head? = some .flowListEnd then .ok ([], r.next)
    else do
      let r ← if first then .ok r else if r.head? = some .comma then .ok r.next else .error (r.faultOr .content)
      match r.head? with
      | some .flowListEnd => .ok ([], r.next)
      | some .key => do
        let (k, r) ←
          if endsEntry [.value, .comma, .flowListEnd] r.next then .ok (.empty, r.next)
          else node false false fuel r.next
        let (v, r) ← flowValue .flowListEnd fuel r
        let (ns, r) ← flowItems false fuel r
        return (.map none [(k, v)] :: ns, r)
      | _ => do
        let (n, r) ← node false false fuel r
        let (ns, r) ← flowItems false fuel r
        return (n :: ns, r)

def flowEntries (first : Bool) : Nat → Reader → Except Fault (List (Node × Node) × Reader)
  | 0, _ => .error .content
  | fuel + 1, r =>
    if r.head? = some .flowMapEnd then .ok ([], r.next)
    else do
      let r ← if first then .ok r else if r.head? = some .comma then .ok r.next else .error (r.faultOr .content)
      match r.head? with
      | some .flowMapEnd => .ok ([], r.next)
      | some .key => do
        let (k, r) ←
          if endsEntry [.value, .comma, .flowMapEnd] r.next then .ok (.empty, r.next)
          else node false false fuel r.next
        let (v, r) ← flowValue .flowMapEnd fuel r
        let (rest, r) ← flowEntries false fuel r
        return ((k, v) :: rest, r)
      | _ => do
        let (k, r) ← node false false fuel r
        let (rest, r) ← flowEntries false fuel r
        return ((k, .empty) :: rest, r)

def flowValue (close : Token) : Nat → Reader → Except Fault (Node × Reader)
  | 0, _ => .error .content
  | fuel + 1, r =>
    match r.head? with
    | some .value =>
      if endsEntry [.comma, close] r.next then .ok (.empty, r.next) else node false false fuel r.next
    | _ => .ok (.empty, r)
end

/-- The short forms that every document knows. -/
def standardHandles : List (Text × Text) := [(['!'], ['!']), (['!', '!'], "tag:yaml.org,2002:")]

/-- The directives before a document: at most one version, of the first edition, and each handle
once. -/
def directives (versioned : Bool) (handles : List (Text × Text)) :
    List Token → Except Fault (List (Text × Text) × List Token)
  | .version major :: rest =>
    if versioned || major ≠ 1 then .error .directive else directives true handles rest
  | .handle name uri :: rest =>
    if handles.any (·.1 = name) then .error .directive
    else directives versioned ((name, uri) :: handles) rest
  | .reserved :: rest => directives versioned handles rest
  | rest => .ok (handles, rest)

def isDirective : Token → Bool
  | .version _ | .handle .. | .reserved => true
  | _ => false

def startsDocument : Option Token → Bool
  | some t => isDirective t || t = .documentStart || t = .documentEnd
  | none => true

/-- Only ends of documents are left. -/
def finished (r : Reader) : Except Fault Unit :=
  match r.tokens.dropWhile (· = .documentEnd) with
  | [] => .ok ()
  | ts => do
    let (_, rest) ← directives false [] ts
    .error ({ r with tokens := rest }.faultOr .secondDocument)

/-- The only document of a token sequence, if it has one. -/
def document (ts : List Token) : Except Fault (Option Node) :=
  let fuel := 4 * ts.length + 8
  let content (r : Reader) : Except Fault (Option Node) := do
    let (n, r) ← node true false fuel r
    finished r
    return some n
  match ts with
  | [] => .ok none
  | t :: _ =>
    if isDirective t || t = .documentStart then do
      let (handles, rest) ← directives false [] ts
      let r : Reader := ⟨rest, [], handles ++ standardHandles⟩
      if r.head? = some .documentStart then
        if startsDocument r.next.head? then do
          finished r.next
          return some .empty
        else content r.next
      else .error (r.faultOr .directive)
    else content ⟨ts, [], standardHandles⟩

end Componentry.Yaml
