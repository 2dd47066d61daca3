import DeclGen.Xml.Namespace

/-!
Documents as trees of elements and text. `buildTree` puts the tokens of a root element together and
replaces references to entities by what their texts stand for. A guard that refuses documents which
entities make many times as long as they are written is left out, here and in attribute values.
-/

namespace DeclGen.Xml

inductive Tree where
  | text (content : String)
  | element (tag : String) (attributes : List (String × String)) (children : List Tree)
  deriving Repr

namespace Tree

def tag? : Tree → Option String
  | text _ => none
  | element tag _ _ => some tag

def attribute? (name : String) : Tree → Option String
  | text _ => none
  | element _ attributes _ => attributes.lookup name

def children : Tree → List Tree
  | text _ => []
  | element _ _ children => children

/-- The child elements with a tag, in document order. -/
def childrenWith (tag : String) (t : Tree) : List Tree :=
  t.children.filter (·.tag? == some tag)

mutual

/-- All text inside a tree, in document order. -/
def textContent : Tree → String
  | text content => content
  | element _ _ children => textContents children

def textContents : List Tree → String
  | [] => ""
  | t :: ts => t.textContent ++ textContents ts

end

end Tree

/-- An open element: its name as written and as resolved, and its children in reverse. -/
structure OpenElement where
  writtenName : String
  tag : ResolvedTag
  reversed : List Tree

/-- Elements that are open, from the inside out, and the root element once it is closed. -/
structure TreeBuilder where
  opened : List OpenElement
  root : Option Tree

namespace TreeBuilder

def empty : TreeBuilder := ⟨[], none⟩

def depth (b : TreeBuilder) : Nat := b.opened.length

def bindings (b : TreeBuilder) : Bindings :=
  match b.opened with
  | [] => initialBindings
  | e :: _ => e.tag.bindings

/-- Adds a tree to the innermost open element, or as the root. -/
def add (b : TreeBuilder) (t : Tree) : TreeBuilder :=
  match b.opened with
  | [] => { b with root := some t }
  | e :: outer => { b with opened := { e with reversed := t :: e.reversed } :: outer }

def openElement (b : TreeBuilder) (name : String) (tag : ResolvedTag) : TreeBuilder :=
  { b with opened := ⟨name, tag, []⟩ :: b.opened }

/-- Closes the innermost open element. -/
def close (b : TreeBuilder) : TreeBuilder :=
  match b.opened with
  | [] => b
  | e :: outer =>
    TreeBuilder.add { b with opened := outer }
      (.element e.tag.name e.tag.attributes e.reversed.reverse)

end TreeBuilder

/-- Where tokens come from: the definitions, the entities that are open around them, and the number
of elements that are open where they start. -/
structure TokenContext where
  definitions : Definitions
  openEntities : List String
  base : Nat

/-- The tokens of an entity that is referred to at `position`. -/
def entityTokens (k : TokenContext) (position : Position) (name : String) :
    Except Fault (List (Placed ContentToken)) :=
  let unread : Except Fault (List (Placed ContentToken)) :=
    .error ⟨.unreadEntity ("&" ++ name ++ ";"), position⟩
  match k.definitions.entities.lookup name with
  | none => if k.definitions.isStrict then .error ⟨.undefinedEntity, position⟩ else unread
  | some body =>
    if k.openEntities.contains name then .error ⟨.recursiveEntity, position⟩
    else
      match body with
      | .unparsed => .error ⟨.binaryEntity, position⟩
      | .external => unread
      | .text cs => .ok (entityContent position cs)

/-- The effect of one token, where `expand` adds the tokens of an entity. -/
def TreeBuilder.step (k : TokenContext)
    (expand : TokenContext → TreeBuilder → List (Placed ContentToken) → Except Fault TreeBuilder)
    (b : TreeBuilder) (t : Placed ContentToken) : Except Fault TreeBuilder :=
  match t.item with
  | .openTag tag => do
    let resolved ← resolveTag k.definitions k.openEntities b.bindings t.position tag
    let b := b.openElement tag.name resolved
    return if tag.isEmpty then b.close else b
  | .closeTag name position =>
    if b.depth ≤ k.base then .error ⟨.asynchronousEntity, t.position⟩
    else if b.opened.head?.any (·.writtenName == name) then .ok b.close
    else .error ⟨.mismatchedTag, position⟩
  | .text cs => .ok (b.add (.text (String.ofList cs)))
  | .fault fault => .error fault
  | .entity name => do
    let tokens ← entityTokens k t.position name
    let inner ← expand ⟨k.definitions, name :: k.openEntities, b.depth⟩ b tokens
    if inner.depth = b.depth then return inner else throw ⟨.asynchronousEntity, t.position⟩

/-- Adds tokens in which entities are nested at most `nesting` deep. -/
def TreeBuilder.addTokens (nesting : Nat) (k : TokenContext) (b : TreeBuilder)
    (tokens : List (Placed ContentToken)) : Except Fault TreeBuilder :=
  match nesting with
  | 0 => .ok b
  | nesting + 1 => tokens.foldlM (TreeBuilder.step k (TreeBuilder.addTokens nesting)) b

/-- The tree of the tokens of a root element. An entity is never open inside itself, so the number
of entities bounds their nesting. -/
def buildTree (d : Definitions) (tokens : List (Placed ContentToken)) :
    Except Fault (Option Tree) :=
  (TreeBuilder.addTokens (d.entities.length + 1) ⟨d, [], 0⟩ .empty tokens).map (·.root)

end DeclGen.Xml
