/-!
# Substitution in text

Finding a token in a text, and putting a text in the place of every occurrence.
Occurrences are taken from the left and do not overlap.
-/

namespace TileAudit
namespace Text

def hasToken (token : List Char) : List Char → Bool
  | [] => token.isEmpty
  | c :: rest => token.isPrefixOf (c :: rest) || hasToken token rest

/--
Substitution of `value` for a token, when the next `skip`
characters are the rest of an occurrence that has been replaced already.
-/
def substituteSkipping (token value : List Char) : Nat → List Char → List Char
  | _, [] => []
  | skip + 1, _ :: rest => substituteSkipping token value skip rest
  | 0, c :: rest =>
      if token.isPrefixOf (c :: rest) then
        value ++ substituteSkipping token value (token.length - 1) rest
      else
        c :: substituteSkipping token value 0 rest

def substitute (token value text : List Char) : List Char :=
  substituteSkipping token value 0 text

end Text
end TileAudit
