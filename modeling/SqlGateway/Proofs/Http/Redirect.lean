import Mathlib.Data.List.Chain
import SqlGateway.Http.Exchange
import SqlGateway.Proofs.Http.Headers

/-!
# Requests that follow redirects

The requests that arrive for a query form a chain, and each is what its redirect makes of the one
before (`isChain_course`).  The step relation is `Leads`: no login goes on to another server
(`Leads.authorization`), and a request hands over the body of the first one or has none
(`Leads.continues`), so that is so of all of them (`arrived_continues`).  There are at most eleven
(`length_course_le`).

`Reaches` says of an exchange where requests are taken on to, without a look at the requests.  That
it tells exactly the places of those that arrive after the first is `reaches_iff`.  The ending of
a course depends on where its requests go, and not on what they carry (`ending_congr`).
-/

namespace SqlGateway.Http

/-! ## One redirect -/

namespace Request

variable {first last r : Request} {s : Status} {place : Url} {h : Header}

/-- Where the headers of a request that follows a redirect come from. -/
theorem mem_headers_onward (mem : h ∈ (first.onward last s place).headers) :
    h.1 = "host" ∨ h.1 = "referer" ∨
      ((first.onward last s place).method = .post ∨ h.1 ∉ bodyHeaders) ∧
        (sameServer last.url place = true ∨ h.1 ≠ "authorization") := by
  rcases mem_foldl_insertHeader mem with new | kept
  · rcases List.mem_cons.mp new with rfl | told
    · exact .inl rfl
    · obtain ⟨_, -, rfl⟩ := Option.map_eq_some_iff.mp (Option.mem_toList.mp told)
      exact .inr (.inl rfl)
  · obtain ⟨-, keeps⟩ := List.mem_filter.mp kept
    refine .inr (.inr ?_)
    simpa [onward] using keeps

/-- A redirect leads from one request to the next, where the first one was made for a query. -/
inductive Leads (first last : Request) : Request → Prop where
  /-- The answer to the last request names a place that requests can be sent to. -/
  | onward {s : Status} {place : Url} (sent : redirects s place = true)
      (web : isOverHttp place = true) : Leads first last (first.onward last s place)

/-- A request hands over the body of the first one, or it fetches something and has no body. -/
def Continues (first r : Request) : Prop :=
  (r.method = .post ∧ r.body = first.body) ∨
    (r.method = .get ∧ r.body = "" ∧ ∀ h ∈ r.headers, h.1 ∉ bodyHeaders)

namespace Leads

variable (leads : first.Leads last r)

include leads

theorem canBeSent : r.canBeSent = true := by
  cases leads with
  | onward sent => exact (Bool.and_eq_true_iff.mp sent).2

/-- No login and no token goes on to another server. -/
theorem authorization (other : sameServer last.url r.url = false) :
    valuesOf "authorization" r.headers = [] := by
  cases leads with
  | @onward s place =>
      rw [valuesOf, List.map_eq_nil_iff, List.filter_eq_nil_iff]
      intro h mem name
      rw [decide_eq_true_eq] at name
      rcases mem_headers_onward mem with named | named | ⟨-, here | apart⟩
      · exact absurd (name.symm.trans named) (by decide)
      · exact absurd (name.symm.trans named) (by decide)
      · exact Bool.noConfusion (here.symm.trans other)
      · exact apart name

theorem continues : first.Continues r := by
  cases leads with
  | @onward s place =>
      cases method : (first.onward last s place).method with
      | post => exact .inl ⟨method, if_pos method⟩
      | get =>
          have fetches : (first.onward last s place).method ≠ .post := by simp [method]
          refine .inr ⟨method, if_neg fetches, fun h mem => ?_⟩
          rcases mem_headers_onward mem with named | named | ⟨posts | named, -⟩
          · rw [named]
            decide
          · rw [named]
            decide
          · exact absurd posts fetches
          · exact named

end Leads

end Request

/-! ## All redirects -/

namespace Exchange

/-- An exchange takes the request on to a place, in so many redirects at most, and a request
arrives there. -/
inductive Reaches : (left : Nat) → Exchange → Url → Prop where
  /-- The first redirect leads there. -/
  | next {left : Nat} {s : Status} {place : Url} {body : Bytes} {elapsed : Nat}
      {further : Exchange} (sent : redirects s place = true) (web : isOverHttp place = true)
      (arrived : further.arrived = true) :
      Reaches (left + 1) (.elsewhere s place body elapsed further) place
  /-- A later redirect leads there. -/
  | later {left : Nat} {s : Status} {place v : Url} {body : Bytes} {elapsed : Nat}
      {further : Exchange} (sent : redirects s place = true) (web : isOverHttp place = true)
      (reached : Reaches left further v) :
      Reaches (left + 1) (.elsewhere s place body elapsed further) v

variable {first first' last last' : Request} {left : Nat} {x : Exchange} {v : Url}

/-- The last request is the first that arrives, if any does. -/
theorem arrived_course (first : Request) (left : Nat) (last : Request) (x : Exchange) :
    (x.course first left last).arrived =
      if x.arrived then last :: (x.course first left last).arrived.tail else [] := by
  fun_cases Exchange.course first left last x <;> rfl

/-- Each request that arrives is what a redirect makes of the one before. -/
theorem isChain_course (first : Request) (left : Nat) (last : Request) (x : Exchange) :
    (x.course first left last).arrived.IsChain first.Leads := by
  fun_induction Exchange.course first left last x with
  | case1 => exact .nil
  | case6 last s place _ _ further sent left web rest ih =>
      -- The request that this redirect makes is the next one, or no other arrives.
      have next : rest.arrived = if further.arrived then _ else [] := arrived_course _ _ _ _
      dsimp only
      rw [next] at ih ⊢
      by_cases arrived : further.arrived = true
      · rw [if_pos arrived] at ih ⊢
        exact .cons_cons (.onward sent web) ih
      · rw [if_neg arrived]
        exact .singleton _
  | _ => exact .singleton _

/-- Each redirect takes one request on. -/
theorem length_course_le (first : Request) (left : Nat) (last : Request) (x : Exchange) :
    (x.course first left last).arrived.length ≤ left + 1 := by
  fun_induction Exchange.course first left last x with
  | case6 last s place _ _ further sent left web rest ih => exact Nat.succ_le_succ ih
  | _ => simp

/-- Requests are taken on to the places of those that arrive after the first. -/
theorem reaches_iff : x.Reaches left v ↔
    ∃ r ∈ (x.course first left last).arrived.tail, r.url = v := by
  fun_induction Exchange.course first left last x with
  | case6 last s place body elapsed further sent left web rest ih =>
      have next : rest.arrived = if further.arrived then _ else [] := arrived_course _ _ _ _
      dsimp only
      rw [List.tail_cons]
      constructor
      · intro reached
        cases reached with
        | next _ _ arrived =>
            rw [next, if_pos arrived]
            exact ⟨_, .head _, rfl⟩
        | later _ _ reached =>
            obtain ⟨r, mem, url⟩ := ih.mp reached
            exact ⟨r, List.mem_of_mem_tail mem, url⟩
      · rintro ⟨r, mem, rfl⟩
        rw [next] at mem
        split at mem
        case isFalse => cases mem
        case isTrue arrived =>
          rcases List.mem_cons.mp mem with rfl | mem
          · exact .next sent web arrived
          · exact .later sent web (ih.mpr ⟨r, mem, rfl⟩)
  | case7 last s place body elapsed further sent left web =>
      refine iff_of_false ?_ (by simp)
      rintro (⟨_, web', _⟩ | ⟨_, web', _⟩) <;> exact web web'
  | case8 last s place body elapsed further left stays =>
      refine iff_of_false ?_ (by simp)
      rintro (⟨sent, _, _⟩ | ⟨sent, _, _⟩) <;> exact stays sent
  | _ => exact iff_of_false nofun (by simp)

/-- The ending depends on where the first request and the last one go. -/
theorem ending_congr (firstUrl : first'.url = first.url) (lastUrl : last'.url = last.url) :
    (x.course first' left last').ending = (x.course first left last).ending := by
  induction x generalizing left last last' with
  | unreached | unanswered => simp only [course, firstUrl]
  | cut | reply => rfl
  | elsewhere s place body elapsed further ih =>
      dsimp only [course]
      split
      · cases left with
        | zero => simp only [lastUrl]
        | succ left =>
            dsimp only
            split
            · exact ih rfl
            · rfl
      · rfl

end Exchange

/-! ## The requests of a query -/

namespace Transport

variable (t : Transport) (query : String) (x : Exchange)

/-- The request of the query is the first that arrives. -/
theorem arrived_course : (t.course query x).arrived =
    if (t.request query).canBeSent && x.arrived then
      t.request query :: (t.course query x).arrived.tail
    else [] := by
  rw [course]
  split
  case isTrue sendable => rw [sendable, Bool.true_and, ← Exchange.arrived_course]
  case isFalse stuck => simp [stuck]

/-- At most eleven requests arrive for a query, each of which redirects make of the one before. -/
theorem arrived_isChain : (t.course query x).arrived.IsChain (t.request query).Leads ∧
    (t.course query x).arrived.length ≤ redirectLimit + 1 := by
  rw [course]
  split
  · exact ⟨Exchange.isChain_course _ _ _ _, Exchange.length_course_le _ _ _ _⟩
  · exact ⟨.nil, Nat.zero_le _⟩

/-- Every request that arrives can be sent, and hands over the query or has no body. -/
theorem arrived_continues : ∀ r ∈ (t.course query x).arrived,
    r.canBeSent = true ∧ (t.request query).Continues r := by
  have started := t.arrived_course query x
  refine (t.arrived_isChain query x).1.induction _ _
    (fun _ _ leads _ => ⟨leads.canBeSent, leads.continues⟩) fun some => ?_
  split at started
  case isFalse => exact absurd started some
  case isTrue sent =>
    have first : (t.course query x).arrived.head some = t.request query := by
      rw [List.head_eq_iff_head?_eq_some, started, List.head?_cons]
    rw [first]
    exact ⟨(Bool.and_eq_true_iff.mp sent).1, .inl ⟨rfl, rfl⟩⟩

end Transport

end SqlGateway.Http
