/-!
The tokens of a pattern text: characters, each alone or behind a backslash.
-/
namespace LedgerFlow.Pattern

inductive Token where
  | plain (c : Char)
  | escaped (c : Char)
  /-- A backslash at the very end, behind which nothing stands. -/
  | stray
  deriving DecidableEq, Repr

def Token.chars : Token → List Char
  | .plain c => [c]
  | .escaped c => ['\\', c]
  | .stray => ['\\']

def tokens : List Char → List Token
  | [] => []
  | ['\\'] => [.stray]
  | '\\' :: c :: rest => .escaped c :: tokens rest
  | c :: rest => .plain c :: tokens rest

end LedgerFlow.Pattern
