import FormulaChain.Catalog.Basic

/-!
# The built-in operators

The two tables of operators a formula may use unless it brings its own, and the catalog they make.
-/

namespace FormulaChain

/-- The built-in operators on numbers. -/
def scalarOperators : List OperatorSpec := [
  ⟨["+", "add"], .scalar .add, 2⟩,
  ⟨["-", "sub"], .scalar .subtract, 2⟩,
  ⟨["*", "mult"], .scalar .multiply, 2⟩,
  ⟨["/", "div"], .scalar .divide, 2⟩,
  ⟨["*+", "mult_add"], .scalar .multiplyAdd, 3⟩,
  ⟨["sin", "sine"], .scalar .sine, 1⟩,
  ⟨["cos", "cosine"], .scalar .cosine, 1⟩,
  ⟨["tan", "tangent"], .scalar .tangent, 1⟩,
  ⟨["asin", "arcsin", "arcsine"], .scalar .arcsine, 1⟩,
  ⟨["acos", "arccos", "arccosine"], .scalar .arccosine, 1⟩,
  ⟨["atan", "arctan", "arctangent"], .scalar .arctangent, 1⟩,
  ⟨["atan2", "arctan2"], .scalar .arctan2, 2⟩,
  ⟨["sinh"], .scalar .sinh, 1⟩,
  ⟨["cosh"], .scalar .cosh, 1⟩,
  ⟨["tanh"], .scalar .tanh, 1⟩,
  ⟨["^", "pow", "power"], .scalar .power, 2⟩,
  ⟨["log", "logarithm"], .scalar .logarithm, 2⟩,
  ⟨["sqrt"], .scalar .sqrt, 1⟩,
  ⟨["1/sqrt", "inv_sqrt"], .scalar .inverseSqrt, 1⟩,
  ⟨["e^x", "e^", "exp"], .scalar .exponent, 1⟩,
  ⟨["min", "minimum"], .scalar .minimum, 2⟩,
  ⟨["max", "maximum"], .scalar .maximum, 2⟩,
  ⟨["<", "less_than"], .scalar .lessThan, 2⟩,
  ⟨[">", "greater_than"], .scalar .greaterThan, 2⟩,
  ⟨["sgn", "sign"], .scalar .sign, 1⟩,
  ⟨["==", "compare"], .scalar .compare, 3⟩,
  ⟨["smin", "smooth_min", "smooth_minimum"], .scalar .smoothMin, 3⟩,
  ⟨["smax", "smooth_max", "smooth_maximum"], .scalar .smoothMax, 3⟩,
  ⟨["fract"], .scalar .fract, 1⟩,
  ⟨["%", "mod"], .scalar .modulo, 2⟩,
  ⟨["snap"], .scalar .snap, 2⟩,
  ⟨["wrap"], .scalar .wrap, 3⟩,
  ⟨["pingpong", "ping_pong"], .scalar .pingpong, 2⟩,
  ⟨["abs", "absolute"], .scalar .absolute, 1⟩,
  ⟨["round"], .scalar .round, 1⟩,
  ⟨["floor"], .scalar .floor, 1⟩,
  ⟨["ceil"], .scalar .ceil, 1⟩,
  ⟨["trunc", "truncate"], .scalar .truncate, 1⟩,
  ⟨["rad", "to_rad", "to_radians", "radians"], .scalar .radians, 1⟩,
  ⟨["deg", "to_deg", "to_degrees", "degrees"], .scalar .degrees, 1⟩]

/-- The built-in operators on vectors; a plain `mod` is an operator on numbers. -/
def vectorOperators : List OperatorSpec := [
  ⟨["v+", "vadd"], .vector .add, 2⟩,
  ⟨["v-", "vsub"], .vector .subtract, 2⟩,
  ⟨["v*", "vmult"], .vector .multiply, 2⟩,
  ⟨["v/", "vdiv"], .vector .divide, 2⟩,
  ⟨["cross", "cross_product"], .vector .crossProduct, 2⟩,
  ⟨["project"], .vector .project, 2⟩,
  ⟨["reflect"], .vector .reflect, 2⟩,
  ⟨["vsnap"], .vector .snap, 2⟩,
  ⟨["v%", "vmod"], .vector .modulo, 2⟩,
  ⟨["vmin", "vminimum"], .vector .minimum, 2⟩,
  ⟨["vmax", "vmaximum"], .vector .maximum, 2⟩,
  ⟨["dot", "dot_product"], .vector .dotProduct, 2⟩,
  ⟨["dist", "distance"], .vector .distance, 2⟩,
  ⟨["length"], .vector .length, 1⟩,
  ⟨["scale"], .vector .scale, 2⟩,
  ⟨["normalize"], .vector .normalize, 1⟩,
  ⟨["vfloor"], .vector .floor, 1⟩,
  ⟨["vceil"], .vector .ceil, 1⟩,
  ⟨["vfract"], .vector .fract, 1⟩,
  ⟨["vabs", "vabsolute"], .vector .absolute, 1⟩,
  ⟨["vsin", "vsine"], .vector .sine, 1⟩,
  ⟨["vcos", "vcosine"], .vector .cosine, 1⟩,
  ⟨["vtan", "vtangent"], .vector .tangent, 1⟩,
  ⟨["vwrap"], .vector .wrap, 3⟩]

/-- The catalog of the built-in operators. -/
def Catalog.builtin : Catalog :=
  match Catalog.ofTables scalarOperators vectorOperators with
  | .ok catalog => catalog
  | .error _ => Catalog.empty

end FormulaChain
