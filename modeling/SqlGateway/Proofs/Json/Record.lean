import SqlGateway.Json.Record
import SqlGateway.Proofs.Attempt
import SqlGateway.Proofs.Json.Order

/-!
# What a record is decoded from

An object is read member by member in the order in which it lists them.  `lookUp` reads it the
other way round: each described member is looked up by its name.  Where no name repeats and
the members of the record set different parts of it, the two read the same record
(`decode_object_iff`), so the order of an object says nothing.

A member may leave a part of the record alone (`Member.Keeps`).  If all do, so does the record
(`lookUp_keeps`, `ofItems_keeps`).
-/

namespace SqlGateway.Json

variable {α β σ : Type}

/-! ## Members -/

/-- A value other than `null` is decoded as if it had to be there. -/
theorem Decoder.option_of_ne_null {d : Decoder α} {v : Json} (h : v ≠ .null) :
    d.option.ofJson v = (d.ofJson v).map some := by
  cases v with
  | null => exact absurd rfl h
  | _ => rfl

/-- An integer that fits is decoded. -/
theorem Decoder.integer_int {expected : String} {fit : Int → Option α} {n : Integer} {a : α}
    (h : fit n.val = some a) : (Decoder.integer expected fit).ofJson (.int n) = .ok a := by
  simp only [int, Decoder.integer, Decoder.number, h]

theorem Decoder.bool_eq_ok {v : Json} {b : Bool} : Decoder.bool.ofJson v = .ok b ↔ v = .bool b := by
  cases v <;> simp [Decoder.bool]

namespace Member

/-- The order in which two members are read does not matter. -/
def Commutes (m n : Member σ) : Prop :=
  ∀ ⦃v w : Json⦄ ⦃f g : σ → σ⦄, m.decode.ofJson v = .ok f → n.decode.ofJson w = .ok g →
    ∀ s, f (g s) = g (f s)

/-- A member leaves a part of the record alone. -/
def Keeps (part : σ → α) (m : Member σ) : Prop :=
  ∀ ⦃v : Json⦄ ⦃f : σ → σ⦄, m.decode.ofJson v = .ok f → ∀ s, part (f s) = part s

/-- Members that set different parts commute. -/
theorem commutes_of_set {name name' : String} {required required' : Bool} {d : Decoder α}
    {d' : Decoder β} {set : α → σ → σ} {set' : β → σ → σ}
    (h : ∀ a b s, set a (set' b s) = set' b (set a s)) :
    Commutes ⟨name, required, d.map set⟩ ⟨name', required', d'.map set'⟩ := by
  intro v w f g hf hg s
  obtain ⟨a, -, rfl⟩ := exceptMap_eq_ok.mp hf
  obtain ⟨b, -, rfl⟩ := exceptMap_eq_ok.mp hg
  exact h a b s

/-- A member that sets another part leaves the part alone. -/
theorem keeps_of_set {part : σ → β} {name : String} {required : Bool} {d : Decoder α}
    {set : α → σ → σ} (h : ∀ a s, part (set a s) = part s) :
    Keeps part ⟨name, required, d.map set⟩ := by
  intro v f hf s
  obtain ⟨a, -, rfl⟩ := exceptMap_eq_ok.mp hf
  exact h a s

end Member

/-! ## Looking members up -/

/-- Read each described member, looked up by its name, into a record. -/
def lookUp (ms : Members) : List (Member σ) → σ → Except Mismatch σ
  | [], s => .ok s
  | m :: described, s =>
      match Members.get? ms m.name with
      | none => if m.required then .error (.missingField m.name) else lookUp ms described s
      | some v =>
          match m.decode.ofJson v with
          | .error e => .error e
          | .ok f => lookUp ms described (f s)

section LookUp

variable {ms : Members} {m : Member σ} {described : List (Member σ)} {s s' : σ} {k : String}
  {v : Json} {f : σ → σ}

/-- Looking up succeeds at a member that is absent and may be, or that decodes. -/
theorem lookUp_cons_eq_ok : lookUp ms (m :: described) s = .ok s' ↔
    (Members.get? ms m.name = none ∧ m.required = false ∧ lookUp ms described s = .ok s') ∨
      ∃ v f, Members.get? ms m.name = some v ∧ m.decode.ofJson v = .ok f ∧
        lookUp ms described (f s) = .ok s' := by
  cases present : Members.get? ms m.name with
  | none => cases required : m.required <;> simp [lookUp, present, required]
  | some v => cases decoded : m.decode.ofJson v <;> simp [lookUp, present, decoded]

theorem lookUp_nil : lookUp [] described s = .ok s' ↔
    (∀ m ∈ described, m.required = false) ∧ s = s' := by
  induction described with
  | nil => simp [lookUp]
  | cons m described ih => simp [lookUp_cons_eq_ok, Members.get?, ih, and_assoc]

/-- A member that no described member is named after is not looked up. -/
theorem lookUp_cons_of_notMem (other : ∀ m ∈ described, m.name ≠ k) :
    lookUp ((k, v) :: ms) described s = lookUp ms described s := by
  induction described generalizing s with
  | nil => rfl
  | cons m described ih =>
      obtain ⟨here, later⟩ := List.forall_mem_cons.mp other
      simp only [lookUp, Members.get?, if_neg (Ne.symm here), ih later]

/-- A member of the object is read into its described member, which may as well come first. -/
theorem lookUp_cons_of_mem (described_m : m ∈ described)
    (nodup : (described.map (·.name)).Nodup) (commute : described.Pairwise Member.Commutes) :
    lookUp ((m.name, v) :: ms) described s = .ok s' ↔
      ∃ f, m.decode.ofJson v = .ok f ∧
        lookUp ms (described.filter fun n => n.name ≠ m.name) (f s) = .ok s' := by
  induction described generalizing s with
  | nil => cases described_m
  | cons n described ih =>
      obtain ⟨new, nodup⟩ := List.nodup_cons.mp nodup
      obtain ⟨first, commute⟩ := List.pairwise_cons.mp commute
      rcases List.mem_cons.mp described_m with rfl | later
      · have others : ∀ n ∈ described, n.name ≠ m.name := fun n hn he =>
          new (List.mem_map.mpr ⟨n, hn, he⟩)
        have kept : (m :: described).filter (fun n => n.name ≠ m.name) = described := by
          rw [List.filter_cons_of_neg (by simp)]
          exact List.filter_eq_self.mpr fun n hn => by simpa using others n hn
        rw [kept]
        simp [lookUp_cons_eq_ok, Members.get?, lookUp_cons_of_notMem others]
      · have other : n.name ≠ m.name := fun he =>
          new (List.mem_map.mpr ⟨m, later, he.symm⟩)
        have kept : (n :: described).filter (fun n => n.name ≠ m.name) =
            n :: described.filter fun n => n.name ≠ m.name :=
          List.filter_cons_of_pos (by simpa using other)
        rw [kept]
        simp only [lookUp_cons_eq_ok, Members.get?, if_neg (Ne.symm other), ih later nodup commute]
        -- Both sides read the same two members and differ only in which is set first.
        constructor
        · rintro (⟨absent, optional, f, hf, rest⟩ | ⟨w, g, found, hg, f, hf, rest⟩)
          · exact ⟨f, hf, Or.inl ⟨absent, optional, rest⟩⟩
          · exact ⟨f, hf, Or.inr ⟨w, g, found, hg, first m later hg hf s ▸ rest⟩⟩
        · rintro ⟨f, hf, ⟨absent, optional, rest⟩ | ⟨w, g, found, hg, rest⟩⟩
          · exact Or.inl ⟨absent, optional, f, hf, rest⟩
          · exact Or.inr ⟨w, g, found, hg, f, hf, (first m later hg hf s).symm ▸ rest⟩

/-- Where every described member leaves a part of the record alone, so does looking them up. -/
theorem lookUp_keeps {part : σ → α} (keeps : ∀ m ∈ described, m.Keeps part)
    (h : lookUp ms described s = .ok s') : part s' = part s := by
  induction described generalizing s with
  | nil =>
      cases h
      rfl
  | cons m described ih =>
      obtain ⟨here, later⟩ := List.forall_mem_cons.mp keeps
      rcases lookUp_cons_eq_ok.mp h with ⟨-, -, rest⟩ | ⟨v, f, -, decoded, rest⟩
      · exact ih later rest
      · exact (ih later rest).trans (here decoded s)

end LookUp

namespace RecordShape

/-- The members of a record have different names and set different parts of it. -/
structure Separated (r : RecordShape σ) : Prop where
  /-- No name is described twice. -/
  nodup : (r.members.map (·.name)).Nodup
  /-- The order in which members are read does not matter. -/
  commute : r.members.Pairwise Member.Commutes

/-- The described members that were not seen. -/
def unseen (r : RecordShape σ) (seen : List String) : List (Member σ) :=
  r.members.filter fun m => !seen.contains m.name

section Objects

variable {r : RecordShape σ} {seen : List String} {ms : Members} {s s' : σ} {k : String}

theorem unseen_nil (r : RecordShape σ) : r.unseen [] = r.members := by
  simp [unseen]

theorem unseen_cons (r : RecordShape σ) (k : String) (seen : List String) :
    r.unseen (k :: seen) = (r.unseen seen).filter fun m => m.name ≠ k := by
  rw [unseen, unseen, List.filter_filter]
  congr
  funext m
  by_cases h : m.name = k <;> simp [h]

theorem missing?_eq_none_iff :
    r.missing? seen = none ↔ ∀ m ∈ r.unseen seen, m.required = false := by
  simp only [missing?, unseen, Option.map_eq_none_iff, List.find?_eq_none, List.mem_filter]
  constructor
  · intro h m ⟨described, new⟩
    simpa [-List.contains_eq_mem, new] using h m described
  · intro h m described
    cases old : seen.contains m.name with
    | true => simp
    | false => simp [h m ⟨described, by rw [old]; rfl⟩]

/-- What is left of an object is read as if its members were looked up. -/
theorem ofMembers_eq_ok_iff (separated : r.Separated) (lenient : r.strict = false)
    (nodup : (Members.names ms).Nodup) (fresh : ∀ k ∈ Members.names ms, k ∉ seen) :
    r.ofMembers seen s ms = .ok s' ↔ lookUp ms (r.unseen seen) s = .ok s' := by
  induction ms generalizing seen s with
  | nil =>
      rw [lookUp_nil, ← missing?_eq_none_iff, ofMembers]
      cases r.missing? seen <;> simp
  | cons entry ms ih =>
      obtain ⟨k, v⟩ := entry
      obtain ⟨new, others⟩ := List.nodup_cons.mp nodup
      obtain ⟨unread, unreads⟩ := List.forall_mem_cons.mp fresh
      cases found : r.find? k with
      | none =>
          have unknown : ∀ m ∈ r.unseen seen, m.name ≠ k := fun m hm => by
            simpa using List.find?_eq_none.mp found m (List.mem_filter.mp hm).1
          simp only [ofMembers, found, lenient]
          rw [lookUp_cons_of_notMem unknown]
          exact ih others unreads
      | some m =>
          have named : m.name = k := by simpa using List.find?_some found
          subst named
          have notSeen : seen.contains m.name = false := by simpa using unread
          have unseen : m ∈ r.unseen seen :=
            List.mem_filter.mpr ⟨List.mem_of_find?_eq_some found, by rw [notSeen]; rfl⟩
          have fewer : (r.unseen seen).Sublist r.members := List.filter_sublist
          rw [lookUp_cons_of_mem unseen (separated.nodup.sublist (fewer.map _))
            (separated.commute.sublist fewer), ← unseen_cons]
          cases decoded : m.decode.ofJson v with
          | error e => simp [ofMembers, found, unread, decoded]
          | ok f =>
              have unreads' : ∀ k ∈ Members.names ms, k ∉ m.name :: seen := by
                intro k hk seenNow
                rcases List.mem_cons.mp seenNow with rfl | before
                · exact new hk
                · exact unreads k hk before
              simp [ofMembers, found, unread, decoded, ih others unreads']

/-- An object is decoded by looking up the members of the record. -/
theorem decode_object_iff (separated : r.Separated) (lenient : r.strict = false)
    (nodup : (Members.names ms).Nodup) :
    r.decoder.ofJson (.object ms) = .ok s ↔ lookUp ms r.members r.blank = .ok s := by
  rw [← r.unseen_nil]
  exact ofMembers_eq_ok_iff separated lenient nodup fun _ _ => List.not_mem_nil

end Objects

/-! ## Lists -/

/-- The first item of a list is read into the first described member. -/
theorem ofItems_cons_eq_ok {r : RecordShape σ} {length index : Nat} {m : Member σ}
    {described : List (Member σ)} {v : Json} {vs : List Json} {s s' : σ} :
    r.ofItems length index s (m :: described) (v :: vs) = .ok s' ↔
      ∃ f, m.decode.ofJson v = .ok f ∧
        r.ofItems length (index + 1) (f s) described vs = .ok s' := by
  cases decoded : m.decode.ofJson v <;> simp [ofItems, decoded]

/-- Where every described member leaves a part of the record alone, so does a list of their
values. -/
theorem ofItems_keeps {r : RecordShape σ} {part : σ → α} {length index : Nat}
    {described : List (Member σ)} {vs : List Json} {s s' : σ}
    (keeps : ∀ m ∈ described, m.Keeps part)
    (h : r.ofItems length index s described vs = .ok s') : part s' = part s := by
  induction described generalizing index s vs with
  | nil =>
      cases vs with
      | nil =>
          cases h
          rfl
      | cons v vs => cases h
  | cons m described ih =>
      obtain ⟨here, later⟩ := List.forall_mem_cons.mp keeps
      cases vs with
      | nil =>
          cases required : m.required with
          | true => simp [ofItems, required] at h
          | false =>
              simp only [ofItems, required] at h
              exact ih later h
      | cons v vs =>
          obtain ⟨f, decoded, rest⟩ := ofItems_cons_eq_ok.mp h
          exact (ih later rest).trans (here decoded s)

end RecordShape

end SqlGateway.Json
