/-!
# The order of texts

Texts are ordered by the first characters in which they differ, and a text comes before those that
it starts.
-/

namespace Rollout.Text

/-- Tells whether a text is the same as another one or comes before it. -/
def atMost : List Char → List Char → Bool
  | [], _ => true
  | _ :: _, [] => false
  | a :: as, b :: bs => a.toNat < b.toNat || (a.toNat = b.toNat && atMost as bs)

end Rollout.Text
