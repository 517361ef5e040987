import LintConfig.Answers.Record
import LintConfig.Style.Statistic

/-! The configuration that answers ask for. -/

namespace LintConfig.Answers.Record

/-- Names of environments, switched on. -/
def environments (r : Record) : List String :=
  (if r.es6.isTruthy then ["es6"] else []) ++ r.env ++
    (if r.commonjs.isTruthy then ["commonjs"] else [])

def usesReact (r : Record) : Bool := r.jsx.isTruthy && r.react.isTruthy

/-- What the answers about the platform ask for. What is not used is not mentioned. -/
def environmentFragment (r : Record) : Fragment where
  env := .ofList (r.environments.map (·, true))
  ecmaFeatures :=
    (if r.jsx.isTruthy then [("jsx", true)] else []) ++
      (if r.usesReact then [("experimentalObjectRestSpread", true)] else [])
  plugins := if r.usesReact then ["react"] else []

/-- The option of a style rule that the answers ask for. -/
def styleOption (r : Record) : Style.Rule → Value
  | .indent => r.indent
  | .quotes => r.quotes
  | .linebreak => r.linebreak
  | .semi => .text (if r.semi.isTruthy then "always" else "never")

/-- What the answers about style ask for: all style rules as errors. -/
def styleFragment (r : Record) : Fragment where
  rules := Style.Rule.all.map fun rule => (rule.name, Setting.error (r.styleOption rule))

/-- The configuration that the answers alone ask for. -/
def fragment (r : Record) : Fragment :=
  (({ base := some recommended } : Fragment).merge r.environmentFragment).merge r.styleFragment

end LintConfig.Answers.Record
