import SpeakrRunpod.Core.Text

/-!
# Responses

What Starlette makes of the arguments of a `Response`, on the adapter and on the wrapper alike.
-/

namespace SpeakrRunpod

/-- The header that `Response` makes of its `media_type`: a text is given a charset. -/
def contentTypeHeader (mediaType : String) : String :=
  if "text/".toList <+: mediaType.toList ∧
      ¬ PyText.contains (PyText.lower mediaType) "charset=" then mediaType ++ "; charset=utf-8"
  else mediaType

/-- The statuses whose responses have no body. -/
def bodiless (status : ℕ) : Prop := status < 200 ∨ status = 204 ∨ status = 304

instance (status : ℕ) : Decidable (bodiless status) := inferInstanceAs (Decidable (_ ∨ _))

end SpeakrRunpod
