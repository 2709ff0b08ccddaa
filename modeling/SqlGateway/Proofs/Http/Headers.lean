import Mathlib.Data.List.Induction
import SqlGateway.Http.Request

/-!
# Headers of requests

Headers that are put in their places one after another are in increasing order of names.  Of
several with one name the last is there (`valuesOf_foldl`).
-/

namespace SqlGateway.Http

/-- The values of the headers of a name. -/
def valuesOf (name : String) (hs : List Header) : List String :=
  (hs.filter fun h => h.1 = name).map (·.2)

variable {h g : Header} {hs gs : List Header} {name : String}

/-- One name comes before another. -/
def Before (h g : Header) : Prop := h.1 < g.1

@[simp] theorem valuesOf_nil (name : String) : valuesOf name [] = [] := rfl

theorem valuesOf_cons (name : String) (h : Header) (hs : List Header) :
    valuesOf name (h :: hs) = if h.1 = name then h.2 :: valuesOf name hs else valuesOf name hs := by
  by_cases same : h.1 = name <;> simp [valuesOf, same]

@[simp] theorem valuesOf_append (name : String) (hs gs : List Header) :
    valuesOf name (hs ++ gs) = valuesOf name hs ++ valuesOf name gs := by
  simp [valuesOf]

/-- A name that comes before those of all headers is the name of none. -/
theorem valuesOf_of_before (before : ∀ g ∈ hs, name < g.1) : valuesOf name hs = [] := by
  induction hs with
  | nil => rfl
  | cons g gs ih =>
      obtain ⟨here, later⟩ := List.forall_mem_cons.mp before
      rw [valuesOf_cons, if_neg (String.ne_of_lt here).symm, ih later]

theorem mem_insertHeader (mem : g ∈ insertHeader h hs) : g = h ∨ g ∈ hs := by
  induction hs with
  | nil => exact .inl (List.mem_singleton.mp mem)
  | cons f fs ih =>
      rw [insertHeader] at mem
      split at mem
      · exact List.mem_cons.mp mem
      · split at mem
        · exact (List.mem_cons.mp mem).imp_right (List.mem_cons_of_mem _)
        · rcases List.mem_cons.mp mem with rfl | mem
          · exact .inr List.mem_cons_self
          · exact (ih mem).imp_right (List.mem_cons_of_mem _)

theorem mem_foldl_insertHeader {new : List Header}
    (mem : g ∈ new.foldl (fun hs h => insertHeader h hs) hs) : g ∈ new ∨ g ∈ hs := by
  induction new generalizing hs with
  | nil => exact .inr mem
  | cons h new ih =>
      rcases ih mem with mem | mem
      · exact .inl (.tail _ mem)
      · rcases mem_insertHeader mem with rfl | mem
        · exact .inl (.head _)
        · exact .inr mem

/-- A header in its place leaves the headers in order. -/
theorem pairwise_insertHeader (sorted : hs.Pairwise Before) :
    (insertHeader h hs).Pairwise Before := by
  induction sorted with
  | nil => exact List.pairwise_singleton _ _
  | @cons f fs before sorted ih =>
      rw [insertHeader]
      split
      next lt =>
        refine .cons (fun g mem => ?_) (.cons before sorted)
        rcases List.mem_cons.mp mem with rfl | mem
        · exact lt
        · exact String.lt_trans lt (before g mem)
      next nlt =>
        split
        next same =>
          refine .cons (fun g mem => ?_) sorted
          rw [Before, same]
          exact before g mem
        next ne =>
          refine .cons (fun g mem => ?_) ih
          rcases mem_insertHeader mem with rfl | mem
          · exact Std.lt_of_le_of_ne (Std.not_lt.mp nlt) (Ne.symm ne)
          · exact before g mem

/-- A header in its place is the only one of its name, and the others stay. -/
theorem valuesOf_insertHeader (name : String) (h : Header) (sorted : hs.Pairwise Before) :
    valuesOf name (insertHeader h hs) = if h.1 = name then [h.2] else valuesOf name hs := by
  induction sorted with
  | nil => simp [insertHeader, valuesOf_cons]
  | @cons f fs before sorted ih =>
      rw [insertHeader]
      split
      next lt =>
        have others : valuesOf h.1 (f :: fs) = [] := by
          refine valuesOf_of_before (List.forall_mem_cons.mpr ⟨lt, fun g mem => ?_⟩)
          exact String.lt_trans lt (before g mem)
        rw [valuesOf_cons]
        split
        next same => rw [← same, others]
        next => rfl
      next =>
        split
        next same =>
          have others : valuesOf h.1 fs = [] :=
            valuesOf_of_before fun g mem => same ▸ before g mem
          rw [valuesOf_cons, valuesOf_cons, ← same]
          split
          next same => rw [← same, others]
          next => rfl
        next ne =>
          rw [valuesOf_cons, valuesOf_cons, ih]
          by_cases here : h.1 = name
          · have apart : ¬ f.1 = name := fun there => ne (here.trans there.symm)
            rw [if_neg apart, if_pos here, if_pos here]
          · rw [if_neg here, if_neg here]

/-- Headers put in their places are in order, and of those with one name the last is there. -/
theorem valuesOf_foldl (name : String) (hs : List Header) :
    valuesOf name (hs.foldl (fun gs h => insertHeader h gs) []) =
        (valuesOf name hs).getLast?.toList ∧
      (hs.foldl (fun gs h => insertHeader h gs) []).Pairwise Before := by
  -- The last header is put in its place last, and takes the place of those of its name.
  induction hs using List.reverseRecOn with
  | nil => exact ⟨rfl, .nil⟩
  | append_singleton hs h ih =>
      obtain ⟨values, sorted⟩ := ih
      rw [List.foldl_append, List.foldl_cons, List.foldl_nil]
      refine ⟨?_, pairwise_insertHeader sorted⟩
      rw [valuesOf_insertHeader name h sorted, values, valuesOf_append, valuesOf_cons]
      split <;> simp

/-! ## Headers of a query -/

/-- The values of a name in a request: what comes last of the credential, the login of the
endpoint, and what every request has. -/
theorem valuesOf_ask (name : String) (endpoint : Url) (credential : List Header)
    (query : String) :
    valuesOf name (Request.ask endpoint credential query).headers =
      (valuesOf name credential ++
        valuesOf name ((loginOf endpoint).map fun l => ("authorization", basicValue l)).toList ++
        valuesOf name [("accept", "*/*"),
          ("content-length", toString (Utf8.encode (Request.bodyFor query)).length),
          ("content-type", "application/json"),
          ("host", Request.hostText (Request.ask endpoint credential query).url),
          ("user-agent", Request.userAgent)]).getLast?.toList := by
  rw [← valuesOf_append, ← valuesOf_append]
  exact (valuesOf_foldl name _).1

/-- A login takes the place of a token. -/
theorem authorization_ask (endpoint : Url) (credential : List Header) (query : String) :
    valuesOf "authorization" (Request.ask endpoint credential query).headers =
      (valuesOf "authorization" credential ++
        ((loginOf endpoint).map basicValue).toList).getLast?.toList := by
  rw [valuesOf_ask]
  cases loginOf endpoint <;> simp [valuesOf]

/-- A header that only a credential has is sent as the credential has it. -/
theorem valuesOf_ask_of_other {name : String}
    (other : name ∉ ["accept", "authorization", "content-length", "content-type", "host",
      "user-agent"]) (endpoint : Url) (credential : List Header) (query : String) :
    valuesOf name (Request.ask endpoint credential query).headers =
      (valuesOf name credential).getLast?.toList := by
  simp only [List.mem_cons, List.not_mem_nil, or_false, not_or, eq_comm (a := name)] at other
  rw [valuesOf_ask]
  cases loginOf endpoint <;> simp [valuesOf_cons, other]

/-- The announced length is that of the body. -/
theorem contentLength_ask (endpoint : Url) (credential : List Header) (query : String) :
    valuesOf "content-length" (Request.ask endpoint credential query).headers =
      [toString (Utf8.encode (Request.bodyFor query)).length] := by
  rw [valuesOf_ask]
  simp [valuesOf]

end SqlGateway.Http
