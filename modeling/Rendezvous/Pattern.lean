import Rendezvous.Pattern.Reader

/-! Patterns for strings: the text as it was written, with what it was read as. -/
namespace Rendezvous

structure Pattern where
  text : String
  expr : Pattern.Expr
  compile_text : Pattern.Expr.compile text = .ok expr

namespace Pattern

def ofText (text : String) : Except Fault Pattern :=
  match h : Expr.compile text with
  | .ok expr => .ok ⟨text, expr, h⟩
  | .error fault => .error fault

/-- Whether the pattern matches anywhere in a string. -/
def occursIn (pattern : Pattern) (string : String) : Bool := pattern.expr.occursIn string

end Pattern
end Rendezvous
