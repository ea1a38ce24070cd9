import LoadProbe.Numeral
import LoadProbe.Text.Split

/-!
Explanations of a failure: what went wrong, then the cause, then its cause. They are told in one
line or, at the end of a program, as a list.
-/
namespace LoadProbe

/-- The texts of a failure from the outermost to the innermost. -/
structure Explanation where
  outermost : String
  causes : List String := []
  deriving DecidableEq, Repr

namespace Explanation

def texts (explanation : Explanation) : List String :=
  explanation.outermost :: explanation.causes

/-- All texts in one line. -/
def joined (explanation : Explanation) : String := ": ".intercalate explanation.texts

/-- A text with a mark before its first line and as much space before the others. -/
def indented (mark text : String) : String :=
  let margin := "\n" ++ String.ofList (List.replicate mark.length ' ')
  mark ++ margin.intercalate ((Text.split '\n' text.toList).map String.ofList)

/-- A number at the end of five columns, with a colon. -/
def numbered (number : Nat) : String :=
  let digits := Numeral.digits number
  String.ofList (List.replicate (5 - digits.length) ' ' ++ digits) ++ ": "

/-- The list of causes; several ones are numbered. -/
def causeList : List String → String
  | [cause] => indented "    " cause
  | causes =>
    "\n".intercalate (causes.zipIdx.map fun (cause, number) => indented (numbered number) cause)

/-- What a program says that ends in failure. -/
def report (explanation : Explanation) : String :=
  if explanation.causes = [] then "Error: " ++ explanation.outermost
  else "Error: " ++ explanation.outermost ++ "\n\nCaused by:\n" ++ causeList explanation.causes

end Explanation
end LoadProbe
