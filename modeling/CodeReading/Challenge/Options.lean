import CodeReading.Challenge.Basic
import CodeReading.Text.Fingerprint
import CodeReading.Text.Lowercase

set_option autoImplicit false

namespace CodeReading.Options

def keys : List String := ["a", "b", "c", "d"]

def arrange (correct : String) (wrong : List String) (seed : UInt64) : List ChoiceOption × String :=
  let place := min (seed % 4).toNat wrong.length
  let texts := wrong.take place ++ correct :: wrong.drop place
  (keys.zipWith ChoiceOption.mk texts, keys.getD place "")

/-- The first `count` candidates that are not blank, and whose lower case has not been `seen`. -/
def pick (seen : List (List Char)) : Nat → List String → List String
  | 0, _ => []
  | _, [] => []
  | count + 1, candidate :: candidates =>
    let folded := Text.lowercase candidate.toList
    if Text.allBlank candidate.toList ∨ folded ∈ seen then pick seen (count + 1) candidates
    else candidate :: pick (folded :: seen) count candidates

def distractors? (correct : String) (candidates : List String) : Option (List String) :=
  let picked := pick [Text.lowercase correct.toList] 3 candidates
  if picked.length = 3 then some picked else none

def shuffled (salt : String) (texts : List String) : List String :=
  Text.shuffle salt id (IdSet.ofList texts).ids

end CodeReading.Options
