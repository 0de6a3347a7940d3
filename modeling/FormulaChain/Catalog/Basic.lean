import FormulaChain.Operation

/-!
# Operator catalogs

A catalog tells which words of a formula are operators. It is made from two tables, one for each
domain, and refuses tables that put an operator in the wrong place, declare an arity no node has,
give no spelling, or give one spelling to two operators. Its index maps each spelling to the
position of its operator among those registered.
-/

namespace FormulaChain

/-- One operator: its spellings, the operation it stands for and how many operands it takes. -/
structure OperatorSpec where
  /-- The spellings a formula may use. -/
  spellings : List String
  /-- The operation its node performs. -/
  operation : Operation
  /-- How many operands it takes. -/
  arity : Nat
  deriving DecidableEq

/-- The domain of an operator. -/
def OperatorSpec.domain (spec : OperatorSpec) : Domain := spec.operation.domain

/-- Which operators a look-up may find. -/
inductive DomainHint where
  /-- Operators on numbers. -/
  | scalar
  /-- Operators on vectors. -/
  | vector
  /-- Operators of either domain. -/
  | either
  deriving DecidableEq

/-- Whether a look-up may find operators of a domain. -/
def DomainHint.admits : DomainHint → Domain → Bool
  | .scalar, d => d = .scalar
  | .vector, d => d = .vector
  | .either, _ => true

/-- Why two tables do not make a catalog. -/
inductive CatalogError where
  /-- A spelling of the second operation already belongs to the first. -/
  | duplicateSpelling (spelling : String) (first second : Operation)
  /-- An operation is listed in the table of the other domain. -/
  | wrongTable (operation : Operation) (table : Domain)
  /-- An operation declares an arity that no node has. -/
  | invalidArity (operation : Operation) (arity : Nat)
  /-- An operation has no spelling. -/
  | noSpellings (operation : Operation)
  /-- A spelling is indexed at a position that holds no operator yet: its own operator lists it
  twice, and the operation it was first registered for cannot be named. -/
  | indexOutOfRange (spelling : String) (position : Nat)
  deriving DecidableEq

/-- The text of a catalog error. -/
def CatalogError.message : CatalogError → String
  | .duplicateSpelling s first second =>
    "alias `" ++ s ++ "` is used by both " ++ first.text ++ " and " ++ second.text
  | .wrongTable o table => o.text ++ " is listed in the " ++ table.text ++ " table"
  | .invalidArity o arity =>
    s!"{o.text} declares {arity} arguments, node inputs allow 1 to 3"
  | .noSpellings o => o.text ++ " has no aliases"
  | .indexOutOfRange s position =>
    "alias `" ++ s ++ s!"` is indexed at {position}, where no operator stands"

/-- A catalog of operators. -/
structure Catalog where
  /-- The operators in the order of their registration. -/
  specs : List OperatorSpec
  /-- Each spelling with the position of its operator, in the order of registration. -/
  index : List (String × Nat)
  deriving DecidableEq

namespace Catalog

/-- The catalog without operators. -/
def empty : Catalog := ⟨[], []⟩

/-- Enters one spelling of an operator that will stand at the end of the catalog. -/
def enterSpelling (operation : Operation) (c : Catalog) (spelling : String) :
    Except CatalogError Catalog :=
  match c.index.lookup spelling with
  | some position =>
    match c.specs[position]? with
    | some first => .error (.duplicateSpelling spelling first.operation operation)
    | none => .error (.indexOutOfRange spelling position)
  | none => .ok { c with index := c.index ++ [(spelling, c.specs.length)] }

/-- Registers an operator of a table. The checks are made in the order table, arity, presence of a
spelling, spellings already taken. -/
def register (table : Domain) (c : Catalog) (spec : OperatorSpec) : Except CatalogError Catalog :=
  if spec.domain ≠ table then .error (.wrongTable spec.operation table)
  else if spec.arity < 1 ∨ 3 < spec.arity then .error (.invalidArity spec.operation spec.arity)
  else if spec.spellings = [] then .error (.noSpellings spec.operation)
  else do
    let entered ← spec.spellings.foldlM (enterSpelling spec.operation) c
    return { entered with specs := entered.specs ++ [spec] }

/-- The catalog of a table of operators on numbers and one of operators on vectors, in this order;
the first operator that does not fit is the error. -/
def ofTables (scalar vector : List OperatorSpec) : Except CatalogError Catalog := do
  let c ← scalar.foldlM (register .scalar) empty
  vector.foldlM (register .vector) c

/-- The operator with exactly this spelling, if the hint admits its domain. -/
def lookup (c : Catalog) (spelling : String) (hint : DomainHint) : Option OperatorSpec := do
  let position ← c.index.lookup spelling
  let spec ← c.specs[position]?
  if hint.admits spec.domain then some spec else none

/-- All spellings in the order of registration. -/
def spellings (c : Catalog) : List String := c.index.map (·.1)

/-- Number of operators. -/
def size (c : Catalog) : Nat := c.specs.length

/-- Whether there is no operator. -/
def isEmpty (c : Catalog) : Bool := c.specs.isEmpty

end Catalog

end FormulaChain
