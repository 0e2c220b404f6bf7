import SpeakrRunpod.Core.Text

/-!
# Headers that are passed on

`speakr_common/proxy_headers.py`, which the adapter and the wrapper share.  A mapping of headers is
the list of its items, in the order in which `items()` yields them.
-/

namespace SpeakrRunpod

/-- A mapping of header names to values. -/
abbrev Headers := List (String × String)

namespace Headers

/-- The assignment `headers[name] = value`: an existing name keeps its place. -/
def assign (headers : Headers) (name value : String) : Headers :=
  if headers.any fun h => h.1 = name then
    headers.map fun h => if h.1 = name then (name, value) else h
  else headers ++ [(name, value)]

/-- `headers.get(name)`, of a mapping that ignores the case of names. -/
def get? (headers : Headers) (name : String) : Option String :=
  (headers.find? fun h => PyText.lower h.1 = PyText.lower name).map Prod.snd

/-- The values of all headers of a name, in any case. -/
def named (headers : Headers) (name : String) : List String :=
  (headers.filter fun h => PyText.lower h.1 = PyText.lower name).map Prod.snd

/-- `{key: value for key, value in headers.items() if key.lower() not in excluded}`. -/
def without (headers : Headers) (excluded : List String) : Headers :=
  (headers.filter fun h => PyText.lower h.1 ∉ excluded).foldl (fun d h => assign d h.1 h.2) []

/-! ### What is found -/

section Get

variable {headers : Headers} {name name' value : String}

lemma get?_eq_none_iff :
    headers.get? name = none ↔ ∀ h ∈ headers, PyText.lower h.1 ≠ PyText.lower name := by
  rw [get?, Option.map_eq_none_iff, List.find?_eq_none]
  simp

lemma get?_cons_self (h : PyText.lower name' = PyText.lower name) :
    Headers.get? ((name', value) :: headers) name = some value := by
  rw [get?, List.find?_cons, decide_eq_true h]
  rfl

lemma get?_cons_of_ne (h : PyText.lower name' ≠ PyText.lower name) :
    Headers.get? ((name', value) :: headers) name = headers.get? name := by
  rw [get?, List.find?_cons, decide_eq_false h, ← get?]

lemma get?_append (headers headers' : Headers) (name : String) :
    Headers.get? (headers ++ headers') name = (headers.get? name).or (headers'.get? name) := by
  rw [get?, get?, get?, List.find?_append]
  cases headers.find? fun h => PyText.lower h.1 = PyText.lower name <;> rfl

lemma get?_mapValues (f : String → String) (headers : Headers) (name : String) :
    Headers.get? (headers.map fun h => (h.1, f h.2)) name = (headers.get? name).map f := by
  induction headers with
  | nil => rfl
  | cons h headers ih =>
      obtain ⟨name', value⟩ := h
      rw [List.map_cons]
      by_cases hname : PyText.lower name' = PyText.lower name
      · rw [get?_cons_self hname, get?_cons_self hname]
        rfl
      · rw [get?_cons_of_ne hname, get?_cons_of_ne hname, ih]

/-- Names are found in any case. -/
lemma get?_lowerNames (headers : Headers) (name : String) :
    Headers.get? (headers.map fun h => (PyText.lower h.1, h.2)) name = headers.get? name := by
  induction headers with
  | nil => rfl
  | cons h headers ih =>
      obtain ⟨name', value⟩ := h
      have hlower := PyText.lower_idem name'
      rw [List.map_cons]
      by_cases hname : PyText.lower name' = PyText.lower name
      · rw [get?_cons_self hname, get?_cons_self (hlower.trans hname)]
      · have hname' : PyText.lower (PyText.lower name') ≠ PyText.lower name := by
          rw [hlower]
          exact hname
        rw [get?_cons_of_ne hname, get?_cons_of_ne hname', ih]

lemma mem_of_get? (h : headers.get? name = some value) : ∃ item ∈ headers, item.2 = value := by
  rw [get?, Option.map_eq_some_iff] at h
  obtain ⟨item, hitem, hvalue⟩ := h
  exact ⟨item, List.mem_of_find?_eq_some hitem, hvalue⟩

/-- An assignment to a name that is not there in any case. -/
lemma assign_of_get?_eq_none (h : headers.get? name = none) (value : String) :
    headers.assign name value = headers ++ [(name, value)] := by
  rw [assign, if_neg]
  rw [Bool.not_eq_true, List.any_eq_false]
  intro item hitem hname
  exact get?_eq_none_iff.mp h item hitem (congrArg PyText.lower (of_decide_eq_true hname))

lemma get?_assign_self (h : headers.get? name = none) :
    (headers.assign name value).get? name = some value := by
  rw [assign_of_get?_eq_none h, get?_append, h, Option.none_or, get?_cons_self rfl]

lemma get?_map_of_ne (h : PyText.lower name ≠ PyText.lower name') :
    Headers.get? (headers.map fun item => if item.1 = name then (name, value) else item) name' =
      headers.get? name' := by
  rw [get?, get?]
  induction headers with
  | nil => rfl
  | cons item headers ih =>
      rw [List.map_cons, List.find?_cons, List.find?_cons]
      by_cases hitem : item.1 = name
      · have hleft : decide (PyText.lower item.1 = PyText.lower name') = false := by
          rw [hitem]
          exact decide_eq_false h
        rw [if_pos hitem, decide_eq_false h, hleft]
        exact ih
      · rw [if_neg hitem]
        cases decide (PyText.lower item.1 = PyText.lower name') with
        | true => rfl
        | false => exact ih

lemma get?_assign_of_ne (h : PyText.lower name ≠ PyText.lower name') :
    (headers.assign name value).get? name' = headers.get? name' := by
  have hone : Headers.get? [(name, value)] name' = none := by
    rw [get?_eq_none_iff]
    intro item hitem
    rw [List.mem_singleton.mp hitem]
    exact h
  rw [assign]
  split_ifs
  · exact get?_map_of_ne h
  · rw [get?_append, hone, Option.or_none]

/-- No name is left that is excluded. -/
lemma get?_without {excluded : List String} (h : PyText.lower name ∈ excluded) :
    (headers.without excluded).get? name = none := by
  have hassigned : ∀ (items : List (String × String)) (d : Headers),
      (∀ item ∈ items, PyText.lower item.1 ∉ excluded) → d.get? name = none →
        Headers.get? (items.foldl (fun d item => assign d item.1 item.2) d) name = none := by
    intro items
    induction items with
    | nil => exact fun d _ hd => hd
    | cons item items ih =>
        intro d hitems hd
        refine ih _ (fun other hother => hitems other (List.mem_cons_of_mem _ hother)) ?_
        have hne : PyText.lower item.1 ≠ PyText.lower name := by
          intro heq
          exact hitems item List.mem_cons_self (heq ▸ h)
        rw [get?_assign_of_ne hne]
        exact hd
  refine hassigned _ [] (fun item hitem => ?_) rfl
  exact of_decide_eq_true (List.mem_filter.mp hitem).2

end Get

/-! ### All headers of a name -/

section Named

variable {headers headers' : Headers} {name name' value : String}

lemma named_eq_nil_iff : headers.named name = [] ↔ headers.get? name = none := by
  rw [named, List.map_eq_nil_iff, List.filter_eq_nil_iff, get?_eq_none_iff]
  simp

lemma named_append : Headers.named (headers ++ headers') name =
    headers.named name ++ headers'.named name := by
  rw [named, List.filter_append, List.map_append]
  rfl

lemma named_cons_self (h : PyText.lower name' = PyText.lower name) :
    Headers.named ((name', value) :: headers) name = value :: headers.named name := by
  rw [named, List.filter_cons, if_pos (decide_eq_true h), List.map_cons]
  rfl

lemma named_cons_of_ne (h : PyText.lower name' ≠ PyText.lower name) :
    Headers.named ((name', value) :: headers) name = headers.named name := by
  have hname : ¬ decide (PyText.lower name' = PyText.lower name) = true := by simpa using h
  rw [named, List.filter_cons, if_neg hname]
  rfl

end Named

/-! ### What is kept -/

section Without

variable {headers : Headers} {name value : String} {excluded : List String}
  {item : String × String}

/-- Headers that are excluded play no part. -/
lemma without_congr {headers' : Headers}
    (h : headers.filter (fun item => PyText.lower item.1 ∉ excluded) =
      headers'.filter fun item => PyText.lower item.1 ∉ excluded) :
    headers.without excluded = headers'.without excluded := by
  rw [without, without, h]

end Without

end Headers

/-- `REQUEST_HEADERS_EXCLUDED`. -/
def requestHeadersExcluded : List String :=
  ["authorization", "connection", "content-length", "host", "transfer-encoding"]

/-- `RESPONSE_HEADERS_EXCLUDED`. -/
def responseHeadersExcluded : List String :=
  ["connection", "content-encoding", "content-length", "content-type", "transfer-encoding"]

/-- `forwarded_request_headers`. -/
def forwardedRequestHeaders (headers : Headers) (authorizationToken : Option String)
    (extraExcluded : List String) : Headers :=
  let forwarded := headers.without (requestHeadersExcluded ++ extraExcluded.map PyText.lower)
  match authorizationToken with
  | none => forwarded
  | some token => forwarded.assign "Authorization" ("Bearer " ++ token)

/-- `forwarded_response_headers`. -/
def forwardedResponseHeaders (headers : Headers) (extraExcluded : List String) : Headers :=
  headers.without (responseHeadersExcluded ++ extraExcluded.map PyText.lower)

/-- What the caller sent as its own authorization is replaced by the token. -/
example : forwardedRequestHeaders
    [("host", "adapter"), ("authorization", "Bearer old"), ("x-request-id", "abc")]
    (some "new-token") [] =
      [("x-request-id", "abc"), ("Authorization", "Bearer new-token")] := by
  decide

end SpeakrRunpod
