/-!
# Operations

The operations of the two kinds of attribute math node, each with its identifier as node editors
spell it. The domain of an operation tells which kind of node performs it.
-/

namespace FormulaChain

/-- What the operands and the result of an operation are. -/
inductive Domain where
  /-- Numbers. -/
  | scalar
  /-- Vectors of three numbers. -/
  | vector
  deriving DecidableEq

/-- The name of a domain. -/
def Domain.text : Domain → String
  | .scalar => "Scalar"
  | .vector => "Vector"

/-- Operations of the scalar math node. -/
inductive ScalarOperation where
  | add | subtract | multiply | divide | multiplyAdd | sine
  | cosine | tangent | arcsine | arccosine | arctangent | arctan2
  | sinh | cosh | tanh | power | logarithm | sqrt
  | inverseSqrt | exponent | minimum | maximum | lessThan | greaterThan
  | sign | compare | smoothMin | smoothMax | fract | modulo
  | snap | wrap | pingpong | absolute | round | floor
  | ceil | truncate | radians | degrees
  deriving DecidableEq

namespace ScalarOperation

/-- The identifier of an operation. -/
def id : ScalarOperation → String
  | .add => "ADD"
  | .subtract => "SUBTRACT"
  | .multiply => "MULTIPLY"
  | .divide => "DIVIDE"
  | .multiplyAdd => "MULTIPLY_ADD"
  | .sine => "SINE"
  | .cosine => "COSINE"
  | .tangent => "TANGENT"
  | .arcsine => "ARCSINE"
  | .arccosine => "ARCCOSINE"
  | .arctangent => "ARCTANGENT"
  | .arctan2 => "ARCTAN2"
  | .sinh => "SINH"
  | .cosh => "COSH"
  | .tanh => "TANH"
  | .power => "POWER"
  | .logarithm => "LOGARITHM"
  | .sqrt => "SQRT"
  | .inverseSqrt => "INVERSE_SQRT"
  | .exponent => "EXPONENT"
  | .minimum => "MINIMUM"
  | .maximum => "MAXIMUM"
  | .lessThan => "LESS_THAN"
  | .greaterThan => "GREATER_THAN"
  | .sign => "SIGN"
  | .compare => "COMPARE"
  | .smoothMin => "SMOOTH_MIN"
  | .smoothMax => "SMOOTH_MAX"
  | .fract => "FRACT"
  | .modulo => "MODULO"
  | .snap => "SNAP"
  | .wrap => "WRAP"
  | .pingpong => "PINGPONG"
  | .absolute => "ABSOLUTE"
  | .round => "ROUND"
  | .floor => "FLOOR"
  | .ceil => "CEIL"
  | .truncate => "TRUNCATE"
  | .radians => "RADIANS"
  | .degrees => "DEGREES"

/-- All operations, in the order of their table. -/
def all : List ScalarOperation := [
  .add, .subtract, .multiply, .divide, .multiplyAdd, .sine,
  .cosine, .tangent, .arcsine, .arccosine, .arctangent, .arctan2,
  .sinh, .cosh, .tanh, .power, .logarithm, .sqrt,
  .inverseSqrt, .exponent, .minimum, .maximum, .lessThan, .greaterThan,
  .sign, .compare, .smoothMin, .smoothMax, .fract, .modulo,
  .snap, .wrap, .pingpong, .absolute, .round, .floor,
  .ceil, .truncate, .radians, .degrees]

end ScalarOperation

/-- Operations of the vector math node. -/
inductive VectorOperation where
  | add | subtract | multiply | divide | crossProduct | project
  | reflect | snap | modulo | minimum | maximum | dotProduct
  | distance | length | scale | normalize | floor | ceil
  | fract | absolute | sine | cosine | tangent | wrap
  deriving DecidableEq

namespace VectorOperation

/-- The identifier of an operation. -/
def id : VectorOperation → String
  | .add => "ADD"
  | .subtract => "SUBTRACT"
  | .multiply => "MULTIPLY"
  | .divide => "DIVIDE"
  | .crossProduct => "CROSS_PRODUCT"
  | .project => "PROJECT"
  | .reflect => "REFLECT"
  | .snap => "SNAP"
  | .modulo => "MODULO"
  | .minimum => "MINIMUM"
  | .maximum => "MAXIMUM"
  | .dotProduct => "DOT_PRODUCT"
  | .distance => "DISTANCE"
  | .length => "LENGTH"
  | .scale => "SCALE"
  | .normalize => "NORMALIZE"
  | .floor => "FLOOR"
  | .ceil => "CEIL"
  | .fract => "FRACT"
  | .absolute => "ABSOLUTE"
  | .sine => "SINE"
  | .cosine => "COSINE"
  | .tangent => "TANGENT"
  | .wrap => "WRAP"

/-- All operations, in the order of their table. -/
def all : List VectorOperation := [
  .add, .subtract, .multiply, .divide, .crossProduct, .project,
  .reflect, .snap, .modulo, .minimum, .maximum, .dotProduct,
  .distance, .length, .scale, .normalize, .floor, .ceil,
  .fract, .absolute, .sine, .cosine, .tangent, .wrap]

end VectorOperation

/-- An operation of either kind of node. -/
inductive Operation where
  /-- An operation on numbers. -/
  | scalar (operation : ScalarOperation)
  /-- An operation on vectors. -/
  | vector (operation : VectorOperation)
  deriving DecidableEq

namespace Operation

/-- The domain an operation belongs to. -/
def domain : Operation → Domain
  | .scalar _ => .scalar
  | .vector _ => .vector

/-- The identifier, which does not tell the domains apart. -/
def id : Operation → String
  | .scalar o => o.id
  | .vector o => o.id

/-- The text of an operation: its identifier, marked if it is a vector operation. -/
def text : Operation → String
  | .scalar o => o.id
  | .vector o => "VECTOR_" ++ o.id

/-- All operations. -/
def all : List Operation :=
  ScalarOperation.all.map .scalar ++ VectorOperation.all.map .vector

/-- The operation with a text. -/
def ofText? (text : String) : Option Operation :=
  all.find? (·.text = text)

end Operation

end FormulaChain
