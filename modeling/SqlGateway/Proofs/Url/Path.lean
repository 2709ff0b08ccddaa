import SqlGateway.Proofs.Text.Parts
import SqlGateway.Proofs.Url.Percent
import SqlGateway.Url.Reader

/-!
# Reading back paths

The path behind an authority is settled once it has been read (`settled_readPath`): its
segments are encoded, have no slash in them, and are not made of dots.  A settled path is
read back from its text (`readPath_text`), for such segments are only put one after the
other.
-/

namespace SqlGateway.Url

/-- Read the path behind an authority. -/
def readPath (special : Bool) : List Char → Path :=
  if special then readSpecialPath else readOtherPath

/-- What separates the segments of a path. -/
def isSlash (special : Bool) (c : Char) : Bool := c = '/' || (special && c = '\\')

/-- A segment that stays as it is where a path is read. -/
structure Clean (special : Bool) (s : List Char) : Prop where
  free : Free .path s
  whole : ∀ c ∈ s, isSlash special c = false
  noSingle : isSingleDot s = false
  noDouble : isDoubleDot s = false

/-- A path that is read back from its text. -/
inductive Path.Settled (special : Bool) : Path → Prop where
  /-- At least one segment, behind slashes. -/
  | segments {l : List (List Char)} (some : l ≠ []) (clean : ∀ s ∈ l, Clean special s) :
      Settled special (.segments l)
  /-- No path, which a special URL cannot have. -/
  | nothing (other : special = false) : Settled special (.verbatim [])

variable {special : Bool} {s : List Char} {l ss : List (List Char)} {t : Trail}

/-! ## Segments that are clean -/

theorem isSlash_escapeChars : ∀ special, Free (isSlash special) escapeChars := by decide

theorem Clean.nil (special : Bool) : Clean special [] :=
  ⟨Free.nil _, List.forall_mem_nil _, rfl, rfl⟩

theorem dropBreaks_of_lt {cs : List Char} (visible : ∀ c ∈ cs, ' ' < c) : dropBreaks cs = cs := by
  refine List.filter_eq_self.mpr fun c hc => ?_
  have ne : ∀ d, isBreak d = true → c ≠ d := by
    rintro d hd rfl
    have below : ∀ d, isBreak d = true → ¬ ' ' < d := by
      intro d hd
      simp only [isBreak, Bool.or_eq_true, decide_eq_true_eq] at hd
      rcases hd with (rfl | rfl) | rfl <;> decide
    exact below _ hd (visible _ hc)
  simpa using fun h => ne c h rfl

/-- A clean segment is put after those that are done. -/
theorem step_clean (clean : Clean special s) (last : Bool) :
    t.step false last s = { t with segments := t.segments ++ [s] } := by
  rw [Trail.step, clean.noDouble, clean.noSingle]
  rfl

theorem resolve_clean (clean : ∀ s ∈ ss, Clean special s) :
    (resolve false t ss).segments = t.segments ++ ss := by
  induction ss generalizing t with
  | nil => exact (List.append_nil t.segments).symm
  | cons s ss ih =>
      obtain ⟨here, later⟩ := List.forall_mem_cons.mp clean
      have visible : ∀ c ∈ s, ' ' < c := fun c hc => (EncodeSet.lt_of_path (here.free c hc)).1
      have step := step_clean here ss.isEmpty (t := t)
      rw [resolve, if_neg (by simp)]
      dsimp only
      rw [dropBreaks_of_lt visible, encode_of_free here.free, step, ih later, List.append_assoc]
      rfl

/-! ## Segments that have been read -/

/-- The segment that a step puts after the others is clean, for it is encoded and is not made
of dots. -/
theorem clean_step {last : Bool} (clean : ∀ s ∈ t.segments, Clean special s)
    (free : Free .path s) (whole : ∀ c ∈ s, isSlash special c = false) :
    ∀ u ∈ (t.step false last s).segments, Clean special u := by
  have behind : ∀ u ∈ (if last then [[]] else [] : List (List Char)), Clean special u := by
    cases last with
    | false => exact nofun
    | true =>
        intro u hu
        obtain rfl := List.mem_singleton.mp hu
        exact Clean.nil special
  have above : ∀ u ∈ parent t.segments, Clean special u := by
    intro u hu
    rw [parent] at hu
    split at hu
    · split at hu
      · exact clean u hu
      · exact clean u (List.dropLast_sublist _ |>.subset hu)
    · cases hu
  intro u hu
  rw [Trail.step] at hu
  split at hu
  · cases List.mem_append.mp hu with
    | inl hu => exact above u hu
    | inr hu => exact behind u hu
  next noDouble =>
    split at hu
    · cases List.mem_append.mp hu with
      | inl hu => exact clean u hu
      | inr hu => exact behind u hu
    next noSingle =>
      rw [Bool.false_and, Bool.false_and, if_neg (by decide)] at hu
      cases List.mem_append.mp hu with
      | inl hu => exact clean u hu
      | inr hu =>
          obtain rfl := List.mem_singleton.mp hu
          exact ⟨free, whole, by simpa using noSingle, by simpa using noDouble⟩

theorem clean_resolve (clean : ∀ s ∈ t.segments, Clean special s)
    (whole : ∀ s ∈ ss, ∀ c ∈ s, isSlash special c = false) :
    ∀ u ∈ (resolve false t ss).segments, Clean special u := by
  induction ss generalizing t with
  | nil => exact clean
  | cons s ss ih =>
      obtain ⟨here, later⟩ := List.forall_mem_cons.mp whole
      have free := free_encode EncodeSet.spares_path (dropBreaks s)
      have encoded : ∀ c ∈ encode .path (dropBreaks s), isSlash special c = false := by
        intro c hc
        cases of_mem_encode hc with
        | inl kept => exact here c (List.mem_filter.mp kept.1).1
        | inr added => exact isSlash_escapeChars special c added
      rw [resolve, if_neg (by simp)]
      exact ih (clean_step clean free encoded) later

/-- The last segment of a path leaves one behind it, if only an empty one. -/
theorem resolve_ne_nil (some : ss ≠ []) : (resolve false t ss).segments ≠ [] := by
  induction ss generalizing t with
  | nil => exact absurd rfl some
  | cons s ss ih =>
      rw [resolve, if_neg (by simp)]
      dsimp only
      cases ss with
      | cons s' ss => exact ih (List.cons_ne_nil s' ss)
      | nil =>
          rw [resolve, Trail.step]
          split
          · simp
          · split
            · simp
            · simp

theorem clean_readSegments (special : Bool) (cs : List Char) :
    readSegments special cs ≠ [] ∧ ∀ s ∈ readSegments special cs, Clean special s :=
  ⟨resolve_ne_nil (splitWhere_ne_nil _ cs),
    clean_resolve nofun fun _ hs c hc => (of_mem_splitWhere hs c hc).2⟩

/-- Clean segments are read back from their text. -/
theorem readSegments_joinWith (some : l ≠ []) (clean : ∀ s ∈ l, Clean special s) :
    readSegments special (joinWith ['/'] l) = l := by
  have split : splitSlashes special (joinWith ['/'] l) = l :=
    splitWhere_joinWith '/' rfl some fun s hs => (clean s hs).whole
  rw [readSegments, split, resolve_clean clean]
  rfl

/-! ## Paths -/

theorem text_segments : ∀ {l : List (List Char)}, l ≠ [] →
    (Path.segments l).text = '/' :: joinWith ['/'] l
  | [s], _ => by simp [Path.text, joinWith]
  | s :: t :: ss, _ => by
      have later := text_segments (List.cons_ne_nil t ss)
      rw [Path.text] at later ⊢
      rw [List.flatMap_cons, later, joinWith, List.append_assoc, List.singleton_append]
      rfl

theorem Path.Settled.head {p : Path} (settled : p.Settled special) :
    p.text = [] ∨ ∃ cs, p.text = '/' :: cs := by
  cases settled with
  | segments some clean => exact Or.inr ⟨_, text_segments some⟩
  | nothing other => exact Or.inl rfl

/-- A path has no mark of a query or a fragment. -/
theorem Path.Settled.of_mem_text {p : Path} (settled : p.Settled special) {c : Char}
    (h : c ∈ p.text) : ' ' < c ∧ c ≠ '?' ∧ c ≠ '#' := by
  cases settled with
  | nothing other => cases h
  | segments some clean =>
      rw [Path.text, List.mem_flatMap] at h
      obtain ⟨s, hs, hc⟩ := h
      obtain rfl | hc := List.mem_cons.mp hc
      · decide
      · exact EncodeSet.lt_of_path ((clean s hs).free c hc)

/-- A path is settled once it has been read. -/
theorem settled_readPath (special : Bool) (cs : List Char) :
    (readPath special cs).Settled special := by
  have segments (ds : List Char) : (Path.segments (readSegments special ds)).Settled special :=
    .segments (clean_readSegments special ds).1 (clean_readSegments special ds).2
  cases special with
  | true =>
      rw [readPath, if_pos rfl, readSpecialPath.eq_def]
      split <;> exact segments _
  | false =>
      rw [readPath, if_neg (by decide), readOtherPath.eq_def]
      split
      · exact .nothing rfl
      · exact segments _
      · exact segments _

/-- A settled path is read back from its text. -/
theorem readPath_text {p : Path} (settled : p.Settled special) : readPath special p.text = p := by
  cases settled with
  | nothing other =>
      subst other
      rfl
  | segments some clean =>
      rw [text_segments some]
      cases special with
      | true => exact congrArg Path.segments (readSegments_joinWith some clean)
      | false => exact congrArg Path.segments (readSegments_joinWith some clean)

end SqlGateway.Url
