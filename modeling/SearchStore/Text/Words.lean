import SearchStore.Text.Alphanumeric
import SearchStore.Text.Lowercase

/-!
The words of a text: its maximal runs of letters and digits, in lower case. A text is first cut and
then lowered, so a word may hold the marks that lowering adds.
-/

set_option autoImplicit false

namespace SearchStore.Text

def runs (p : Char → Bool) : List Char → List (List Char)
  | [] => []
  | c :: rest =>
      if p c then
        match rest with
        | [] => [[c]]
        | d :: _ =>
            if p d then
              match runs p rest with
              | run :: later => (c :: run) :: later
              | [] => [[c]]
            else [c] :: runs p rest
      else runs p rest

def words (s : List Char) : List (List Char) := (runs isAlphanumeric s).map lowercase

end SearchStore.Text
