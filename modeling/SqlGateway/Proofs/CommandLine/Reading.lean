import SqlGateway.Proofs.Attempt
import SqlGateway.Proofs.CommandLine.Spelling

/-!
# Reading is the inverse of spelling

Without two hyphens alone among its arguments, a level is read exactly if they spell items that
may be said together, and then what is given is what the items give one after another
(`Spells.readLower`, `spells_of_readLower`).  So it is with a command line of two levels
(`Says.read_eq`, `says_of_read`).

The reader looks at one argument at a time, and a value counts an argument later than it is
read; items know nothing of that.  `Step` is what one argument does to the reader where it does
not fail.  `Stands` relates the reader to what is given so far, and to the setting that waits
for its value.
-/

namespace SqlGateway.CommandLine

/-- What is given, and one item more, if that may still be said. -/
def Given.add (g : Given) : Item → Except Halt Given
  | .setting s text => g.set s text
  | .switch o => g.turnOn o
  | .operand text =>
      if g.operand.isNone then .ok { g with operand := some text }
      else .error (.unknownArgument text)

/-- Where the reader is: so much is given, and a setting may wait for its value. -/
def Stands : Option Setting → Scan → Given → Prop
  | none, s, g => s.settle = .ok ⟨g, none, false⟩
  | some o, s, g => s = ⟨g, some (o, none), false⟩

variable {l : Level} {w : Option Setting} {s t : Scan} {g g' : Given} {a : String}
  {arguments : List String} {items : List Item}

/-! ## One argument -/

/-- What an argument does to the reader of a level. -/
inductive Step (l : Level) (s : Scan) : String → Scan → Prop where
  | whole {a : String} {items : List Item} {g g' : Given} (stands : Stands none s g)
      (whole : Whole l a items) (adds : items.foldlM Given.add g = .ok g') :
      Step l s a ⟨g', none, false⟩
  | apart {o : Setting} {g : Given} (stands : Stands none s g) (takes : l.takes o = true) :
      Step l s ("--" ++ o.name) ⟨g, some (o, none), false⟩
  | value {a : String} {o : Setting} {g : Given} (stands : Stands (some o) s g)
      (plain : IsPlain a) : Step l s a ⟨g, some (o, some a), false⟩

theorem settle_eq_ok_iff (unescaped : s.escaped = false) :
    s.settle = .ok t ↔ ∃ g, Stands none s g ∧ t = ⟨g, none, false⟩ := by
  constructor
  · intro settled
    have at_rest : t = ⟨t.given, none, false⟩ := by
      rw [Scan.settle] at settled
      split at settled
      next pending =>
        cases settled
        rw [← pending, ← unescaped]
      next => cases settled
      next =>
        obtain ⟨given, -, rfl⟩ := exceptMap_eq_ok.mp settled
        rw [unescaped]
    exact ⟨t.given, settled.trans (congrArg _ at_rest), at_rest⟩
  · rintro ⟨g, stands, rfl⟩
    exact stands

theorem Stands.settled (g : Given) : Stands none ⟨g, none, false⟩ g := rfl

theorem Stands.valued {o : Setting} {text : String} :
    Stands none ⟨g, some (o, some text), false⟩ g' ↔ g.set o text = .ok g' := by
  rw [Stands, Scan.settle]
  simp [exceptMap_eq_ok]

theorem Stands.unescaped (stands : Stands w s g) : s.escaped = false := by
  cases w with
  | none =>
      rw [Stands, Scan.settle] at stands
      split at stands
      next => exact congrArg Scan.escaped (Except.ok.inj stands)
      next => cases stands
      next =>
        obtain ⟨given, -, same⟩ := exceptMap_eq_ok.mp stands
        exact congrArg Scan.escaped same
  | some o =>
      rw [stands]

/-- Nothing waits, or a setting does. -/
theorem Stands.waits_eq (stands : Stands w s g) : s.waits = w.isSome := by
  cases w with
  | none =>
      rw [Stands, Scan.settle] at stands
      rw [Scan.waits]
      split at stands
      next pending => rw [pending]; rfl
      next => cases stands
      next pending => rw [pending]; rfl
  | some o =>
      rw [stands]
      rfl

theorem set_operand {o : Setting} {text : String} (set : g.set o text = .ok g') :
    g'.operand = g.operand := by
  cases o <;> obtain ⟨_, -, rfl⟩ := exceptMap_eq_ok.mp set <;> rfl

theorem Stands.operand_eq (stands : Stands none s g) : g.operand = s.given.operand := by
  rw [Stands, Scan.settle] at stands
  split at stands
  next => rw [Except.ok.inj stands]
  next => cases stands
  next =>
    obtain ⟨given, set, same⟩ := exceptMap_eq_ok.mp stands
    obtain rfl : given = g := congrArg Scan.given same
    exact set_operand set

/-- An item is added once nothing waits for its value. -/
theorem settle_add_eq_ok_iff (x : Item) (unescaped : s.escaped = false) :
    (do
        let s ← s.settle
        let given ← s.given.add x
        pure { s with given }) = .ok t ↔
      ∃ g g', Stands none s g ∧ g.add x = .ok g' ∧ t = ⟨g', none, false⟩ := by
  rw [bind_eq_ok]
  constructor
  · rintro ⟨s', settled, read⟩
    obtain ⟨g, stands, rfl⟩ := (settle_eq_ok_iff unescaped).mp settled
    obtain ⟨g', added, same⟩ := bind_eq_ok.mp read
    cases same
    exact ⟨g, g', stands, added, rfl⟩
  · rintro ⟨g, g', stands, added, rfl⟩
    exact ⟨_, stands, bind_eq_ok.mpr ⟨g', added, rfl⟩⟩

theorem turnOn_eq_ok_iff {o : Switch} (unescaped : s.escaped = false) :
    s.turnOn o = .ok t ↔
      ∃ g g', Stands none s g ∧ g.turnOn o = .ok g' ∧ t = ⟨g', none, false⟩ :=
  settle_add_eq_ok_iff (.switch o) unescaped

theorem set_some_eq_ok_iff {o : Setting} {text : String} (unescaped : s.escaped = false) :
    s.set o (some text) = .ok t ↔
      ∃ g g', Stands none s g ∧ g.set o text = .ok g' ∧ t = ⟨g', none, false⟩ :=
  settle_add_eq_ok_iff (.setting o text) unescaped

theorem set_none_eq_ok_iff {o : Setting} (unescaped : s.escaped = false) :
    s.set o none = .ok t ↔ ∃ g, Stands none s g ∧ t = ⟨g, some (o, none), false⟩ := by
  rw [Scan.set, bind_eq_ok]
  constructor
  · rintro ⟨s', settled, waiting⟩
    obtain ⟨g, stands, rfl⟩ := (settle_eq_ok_iff unescaped).mp settled
    cases waiting
    exact ⟨g, stands, rfl⟩
  · rintro ⟨g, stands, rfl⟩
    exact ⟨_, stands, rfl⟩

theorem operand_eq_ok_iff (unescaped : s.escaped = false) :
    s.operand l a = .ok t ↔ l.hasOperand = true ∧
      ∃ g g', Stands none s g ∧ g.add (.operand a) = .ok g' ∧ t = ⟨g', none, false⟩ := by
  rw [Scan.operand]
  constructor
  · intro read
    split at read
    next may =>
      rw [Bool.and_eq_true] at may
      obtain ⟨s', settled, same⟩ := bind_eq_ok.mp read
      obtain ⟨g, stands, rfl⟩ := (settle_eq_ok_iff unescaped).mp settled
      cases same
      refine ⟨may.1, g, _, stands, ?_, rfl⟩
      rw [Given.add, stands.operand_eq, if_pos may.2]
    next => split at read <;> cases read
  · rintro ⟨has, g, g', stands, added, rfl⟩
    rw [Given.add] at added
    split at added
    next free =>
      cases added
      rw [stands.operand_eq] at free
      rw [has, free, Bool.and_self, if_pos rfl]
      exact bind_eq_ok.mpr ⟨_, stands, rfl⟩
    next => cases added

theorem letters_cons_eq_ok_iff {c : Char} {cs : List Char} (unescaped : s.escaped = false) :
    Scan.letters l (c :: cs) s = .ok t ↔ ∃ o g g', (o.letter? = some c ∧ l.takesSwitch o = true) ∧
      Stands none s g ∧ g.turnOn o = .ok g' ∧ Scan.letters l cs ⟨g', none, false⟩ = .ok t := by
  rw [Scan.letters]
  constructor
  · intro read
    cases found : l.switchOf? c with
    | none =>
        rw [found] at read
        cases read
    | some o =>
        rw [found] at read
        obtain ⟨s', turned, rest⟩ := bind_eq_ok.mp read
        obtain ⟨g, g', stands, on, rfl⟩ := (turnOn_eq_ok_iff unescaped).mp turned
        exact ⟨o, g, g', Level.switchOf?_eq_some_iff.mp found, stands, on, rest⟩
  · rintro ⟨o, g, g', letter, stands, on, rest⟩
    rw [Level.switchOf?_eq_some_iff.mpr letter]
    exact bind_eq_ok.mpr ⟨_, (turnOn_eq_ok_iff unescaped).mpr ⟨g, g', stands, on, rfl⟩, rest⟩

/-- Letters turn switches on, one after another. -/
theorem letters_settled_eq_ok_iff {cs : List Char} :
    Scan.letters l cs ⟨g, none, false⟩ = .ok t ↔ ∃ os g', l.Letters cs os ∧
      (os.map Item.switch).foldlM Given.add g = .ok g' ∧ t = ⟨g', none, false⟩ := by
  induction cs generalizing g with
  | nil =>
      constructor
      · intro read
        cases read
        exact ⟨[], g, Level.letters_nil_iff.mpr rfl, rfl, rfl⟩
      · rintro ⟨os, g', none, added, rfl⟩
        obtain rfl := Level.letters_nil_iff.mp none
        cases added
        rfl
  | cons c cs ih =>
      rw [letters_cons_eq_ok_iff rfl]
      constructor
      · rintro ⟨o, _, g₁, ⟨letter, takes⟩, stands, on, rest⟩
        cases stands
        obtain ⟨os, g', letters, added, rfl⟩ := ih.mp rest
        refine ⟨o :: os, g', ?_, bind_eq_ok.mpr ⟨g₁, on, added⟩, rfl⟩
        exact Level.letters_cons_iff.mpr ⟨o, os, rfl, letter, takes, letters⟩
      · rintro ⟨os, g', letters, added, rfl⟩
        obtain ⟨o, os, rfl, letter, takes, letters⟩ := Level.letters_cons_iff.mp letters
        obtain ⟨g₁, on, added⟩ := bind_eq_ok.mp added
        exact ⟨o, g, g₁, ⟨letter, takes⟩, .settled g, on, ih.mpr ⟨os, g', letters, added, rfl⟩⟩

theorem letters_eq_ok_iff {c : Char} {cs : List Char} (unescaped : s.escaped = false) :
    Scan.letters l (c :: cs) s = .ok t ↔ ∃ os g g', l.Letters (c :: cs) os ∧ Stands none s g ∧
      (os.map Item.switch).foldlM Given.add g = .ok g' ∧ t = ⟨g', none, false⟩ := by
  rw [letters_cons_eq_ok_iff unescaped]
  constructor
  · rintro ⟨o, g, g₁, ⟨letter, takes⟩, stands, on, rest⟩
    obtain ⟨os, g', letters, added, rfl⟩ := letters_settled_eq_ok_iff.mp rest
    refine ⟨o :: os, g, g', ?_, stands, bind_eq_ok.mpr ⟨g₁, on, added⟩, rfl⟩
    exact Level.letters_cons_iff.mpr ⟨o, os, rfl, letter, takes, letters⟩
  · rintro ⟨os, g, g', letters, stands, added, rfl⟩
    obtain ⟨o, os, rfl, letter, takes, letters⟩ := Level.letters_cons_iff.mp letters
    obtain ⟨g₁, on, added⟩ := bind_eq_ok.mp added
    exact ⟨o, g, g₁, ⟨letter, takes⟩, stands, on,
      letters_settled_eq_ok_iff.mpr ⟨os, g', letters, added, rfl⟩⟩

/-- An argument that is read makes a step. -/
theorem Step.of_argument (unescaped : s.escaped = false) (ne : a ≠ "--")
    (read : s.argument l a = .ok t) : Step l s a t := by
  rw [Scan.argument, if_neg (by simp [unescaped])] at read
  have looks := Word.looks a
  generalize Word.ofArgument a = word at looks read
  cases looks with
  | escape => exact absurd rfl ne
  | named name =>
      dsimp only at read
      cases setting : l.setting? name with
      | some o =>
          obtain ⟨rfl, takes⟩ := Level.setting?_eq_some_iff.mp setting
          rw [setting] at read
          obtain ⟨g, stands, rfl⟩ := (set_none_eq_ok_iff unescaped).mp read
          exact .apart stands takes
      | none =>
          rw [setting] at read
          cases switch : l.switch? name with
          | none =>
              rw [switch] at read
              cases read
          | some o =>
              obtain ⟨rfl, takes⟩ := Level.switch?_eq_some_iff.mp switch
              rw [switch] at read
              obtain ⟨g, g', stands, turned, rfl⟩ := (turnOn_eq_ok_iff unescaped).mp read
              exact .whole stands (.switch takes) (bind_eq_ok.mpr ⟨g', turned, rfl⟩)
  | valued name text =>
      dsimp only at read
      cases setting : l.setting? name with
      | some o =>
          obtain ⟨rfl, takes⟩ := Level.setting?_eq_some_iff.mp setting
          rw [setting] at read
          obtain ⟨g, g', stands, set, rfl⟩ := (set_some_eq_ok_iff unescaped).mp read
          exact .whole stands (.setting text takes) (bind_eq_ok.mpr ⟨g', set, rfl⟩)
      | none =>
          rw [setting] at read
          cases switch : l.switch? name with
          | none =>
              rw [switch] at read
              cases read
          | some o =>
              rw [switch] at read
              cases read
  | letters c cs =>
      dsimp only at read
      obtain ⟨os, g, g', letters, stands, added, rfl⟩ := (letters_eq_ok_iff unescaped).mp read
      exact .whole stands (.letters letters) added
  | plain plain =>
      dsimp only at read
      split at read
      next o pending =>
        cases read
        have stands : Stands (some o) s s.given := by rw [Stands, ← pending, ← unescaped]
        rw [unescaped]
        exact .value stands plain
      next =>
        obtain ⟨has, g, g', stands, added, rfl⟩ := (operand_eq_ok_iff unescaped).mp read
        exact .whole stands (.operand has plain) (bind_eq_ok.mpr ⟨g', added, rfl⟩)

/-- A step is how its argument is read. -/
theorem Step.argument_eq (step : Step l s a t) (unescaped : s.escaped = false) :
    s.argument l a = .ok t := by
  rw [Scan.argument, if_neg (by simp [unescaped])]
  cases step with
  | @whole _ items g g' stands whole adds =>
      cases whole with
      | setting text takes =>
          rw [Word.ofArgument_valued (Setting.name_chars _)]
          dsimp only
          rw [Level.setting?_eq_some_iff.mpr ⟨rfl, takes⟩]
          obtain ⟨_, set, same⟩ := bind_eq_ok.mp adds
          cases same
          exact (set_some_eq_ok_iff unescaped).mpr ⟨g, g', stands, set, rfl⟩
      | switch takes =>
          rw [Word.ofArgument_switch]
          dsimp only
          rw [Level.setting?_switch_name, Level.switch?_eq_some_iff.mpr ⟨rfl, takes⟩]
          obtain ⟨_, turned, same⟩ := bind_eq_ok.mp adds
          cases same
          exact (turnOn_eq_ok_iff unescaped).mpr ⟨g, g', stands, turned, rfl⟩
      | @letters c cs os letters =>
          rw [Word.ofArgument_letters letters.ne_hyphen]
          exact (letters_eq_ok_iff unescaped).mpr ⟨os, g, g', letters, stands, adds, rfl⟩
      | operand has plain =>
          rw [Word.ofArgument_plain plain]
          have idle := stands.waits_eq
          dsimp only
          split
          next pending => simp [Scan.waits, pending] at idle
          next =>
            obtain ⟨_, added, same⟩ := bind_eq_ok.mp adds
            cases same
            exact (operand_eq_ok_iff unescaped).mpr ⟨has, g, g', stands, added, rfl⟩
  | apart stands takes =>
      rw [Word.ofArgument_setting]
      dsimp only
      rw [Level.setting?_eq_some_iff.mpr ⟨rfl, takes⟩]
      exact (set_none_eq_ok_iff unescaped).mpr ⟨_, stands, rfl⟩
  | value stands plain =>
      rw [Word.ofArgument_plain plain, stands]

/-! ## A level -/

/-- Arguments that spell items are read, and give what the items give. -/
theorem Spells.foldlM_argument (spells : Spells l w arguments items) (stands : Stands w s g)
    (adds : items.foldlM Given.add g = .ok g') :
    ∃ t, arguments.foldlM (Scan.argument l) s = .ok t ∧ Stands none t g' := by
  induction spells generalizing s g with
  | nil =>
      cases adds
      exact ⟨s, rfl, stands⟩
  | @whole a more items rest whole spells ih =>
      rw [List.foldlM_append] at adds
      obtain ⟨g₁, here, later⟩ := bind_eq_ok.mp adds
      obtain ⟨t, read, last⟩ := ih (.settled g₁) later
      refine ⟨t, bind_eq_ok.mpr ⟨_, ?_, read⟩, last⟩
      exact Step.argument_eq (.whole stands whole here) stands.unescaped
  | @apart o more items takes spells ih =>
      obtain ⟨t, read, last⟩ := ih (s := ⟨g, some (o, none), false⟩) rfl adds
      refine ⟨t, bind_eq_ok.mpr ⟨_, ?_, read⟩, last⟩
      exact Step.argument_eq (.apart stands takes) stands.unescaped
  | @value o a more items plain spells ih =>
      obtain ⟨g₁, here, later⟩ := bind_eq_ok.mp adds
      obtain ⟨t, read, last⟩ := ih (Stands.valued.mpr here) later
      refine ⟨t, bind_eq_ok.mpr ⟨_, ?_, read⟩, last⟩
      exact Step.argument_eq (.value stands plain) stands.unescaped

/-- An argument that is read spells items together with those behind it. -/
theorem Step.spells {more : List String} (step : Step l s a t) (stands : Stands w t g)
    (spells : Spells l w more items) (adds : items.foldlM Given.add g = .ok g') :
    ∃ w' g₁ others, Stands w' s g₁ ∧ Spells l w' (a :: more) others ∧
      others.foldlM Given.add g₁ = .ok g' := by
  cases step with
  | @whole _ here g₁ g₂ before whole added =>
      cases w with
      | some o => cases stands
      | none =>
          cases stands
          refine ⟨none, g₁, here ++ items, before, .whole whole spells, ?_⟩
          rw [List.foldlM_append]
          exact bind_eq_ok.mpr ⟨g, added, adds⟩
  | apart before takes =>
      cases w with
      | none => cases stands
      | some o =>
          cases stands
          exact ⟨none, g, items, before, .apart takes spells, adds⟩
  | @value _ o g₁ before plain =>
      cases w with
      | some o => cases stands
      | none =>
          exact ⟨some o, g₁, .setting o a :: items, before, .value plain spells,
            bind_eq_ok.mpr ⟨g, Stands.valued.mp stands, adds⟩⟩

theorem Step.unescaped (step : Step l s a t) : t.escaped = false := by
  cases step <;> rfl

/-- Arguments that are read spell items, and what is given is what the items give. -/
theorem spells_of_foldlM {t' : Scan} (unescaped : s.escaped = false) (free : "--" ∉ arguments)
    (read : arguments.foldlM (Scan.argument l) s = .ok t) (settled : t.settle = .ok t') :
    ∃ w g items, Stands w s g ∧ Spells l w arguments items ∧
      items.foldlM Given.add g = .ok t'.given := by
  induction arguments generalizing s with
  | nil =>
      cases read
      obtain ⟨g, stands, rfl⟩ := (settle_eq_ok_iff unescaped).mp settled
      exact ⟨none, g, [], stands, .nil, rfl⟩
  | cons a more ih =>
      obtain ⟨here, later⟩ := List.ne_and_not_mem_of_not_mem_cons free
      obtain ⟨s', first, rest⟩ := bind_eq_ok.mp read
      have step := Step.of_argument unescaped here.symm first
      obtain ⟨w, g, items, stands, spells, adds⟩ := ih step.unescaped later rest
      exact step.spells stands spells adds

theorem Stands.start (stands : Stands w {} g) : w = none ∧ g = {} := by
  cases w with
  | none =>
      cases stands
      exact ⟨rfl, rfl⟩
  | some o => cases stands

theorem Spells.readLower {v : Verb} (spells : Spells (.lower v) none arguments items)
    (adds : items.foldlM Given.add {} = .ok g) : CommandLine.readLower v arguments = .ok g := by
  obtain ⟨t, folded, last⟩ := spells.foldlM_argument (.settled {}) adds
  exact bind_eq_ok.mpr ⟨t, folded, bind_eq_ok.mpr ⟨_, last, rfl⟩⟩

theorem spells_of_readLower {v : Verb} (free : "--" ∉ arguments)
    (read : readLower v arguments = .ok g) :
    ∃ items, Spells (.lower v) none arguments items ∧ items.foldlM Given.add {} = .ok g := by
  obtain ⟨s, folded, read⟩ := bind_eq_ok.mp read
  obtain ⟨t, settled, same⟩ := bind_eq_ok.mp read
  cases same
  obtain ⟨w, g, items, stands, spells, adds⟩ := spells_of_foldlM rfl free folded settled
  obtain ⟨rfl, rfl⟩ := stands.start
  exact ⟨items, spells, adds⟩

/-! ## Two levels -/

/-- An argument that cannot name a command is read as one of its level. -/
theorem readUpper_cons {more : List String} (stands : Stands w s g)
    (unnamed : w = none → Verb.ofName? a = none ∧ a ≠ "help") :
    readUpper s (a :: more) = (do readUpper (← s.argument .upper a) more) := by
  rw [readUpper, stands.unescaped, stands.waits_eq]
  cases w with
  | none =>
      obtain ⟨noName, noHelp⟩ := unnamed rfl
      simp [noName, noHelp]
  | some o => simp

theorem Whole.unnamed (whole : Whole .upper a items) : Verb.ofName? a = none ∧ a ≠ "help" := by
  constructor
  · cases found : Verb.ofName? a with
    | none => rfl
    | some v =>
        rw [← Verb.ofName?_eq_some_iff.mp found] at whole
        exact absurd whole v.not_whole
  · rintro rfl
    have plain : Word.ofArgument "help" = .plain "help" := rfl
    rcases whole.word with ⟨_, _, word, -⟩ | ⟨_, word, -⟩ | ⟨_, _, word, -⟩ | ⟨has, -⟩
    · cases plain.symm.trans word
    · cases plain.symm.trans word
    · cases plain.symm.trans word
    · cases has

theorem Setting.unnamed (o : Setting) :
    Verb.ofName? ("--" ++ o.name) = none ∧ "--" ++ o.name ≠ "help" := by
  cases o <;> decide

/-- Arguments that spell items are read up to the name of a command. -/
theorem Spells.readUpper {before : List String} {v : Verb}
    (spells : Spells .upper w before items) (behind : List String) (stands : Stands w s g)
    (adds : items.foldlM Given.add g = .ok g') :
    ∃ t, readUpper s (before ++ v.name :: behind) = .ok (t, some (v, behind)) ∧
      Stands none t g' := by
  induction spells generalizing s g with
  | nil =>
      cases adds
      refine ⟨s, ?_, stands⟩
      rw [List.nil_append, CommandLine.readUpper, stands.unescaped, stands.waits_eq]
      simp [Verb.ofName?_eq_some_iff.mpr rfl]
  | @whole a more items rest whole spells ih =>
      rw [List.foldlM_append] at adds
      obtain ⟨g₁, here, later⟩ := bind_eq_ok.mp adds
      obtain ⟨t, read, last⟩ := ih (.settled g₁) later
      refine ⟨t, ?_, last⟩
      rw [List.cons_append, readUpper_cons stands fun _ => whole.unnamed]
      refine bind_eq_ok.mpr ⟨_, ?_, read⟩
      exact Step.argument_eq (.whole stands whole here) stands.unescaped
  | @apart o more items takes spells ih =>
      obtain ⟨t, read, last⟩ := ih (s := ⟨g, some (o, none), false⟩) rfl adds
      refine ⟨t, ?_, last⟩
      rw [List.cons_append, readUpper_cons stands fun _ => o.unnamed]
      refine bind_eq_ok.mpr ⟨_, ?_, read⟩
      exact Step.argument_eq (.apart stands takes) stands.unescaped
  | @value o a more items plain spells ih =>
      obtain ⟨g₁, here, later⟩ := bind_eq_ok.mp adds
      obtain ⟨t, read, last⟩ := ih (Stands.valued.mpr here) later
      refine ⟨t, ?_, last⟩
      rw [List.cons_append, readUpper_cons stands nofun]
      refine bind_eq_ok.mpr ⟨_, ?_, read⟩
      exact Step.argument_eq (.value stands plain) stands.unescaped

/-- The arguments that are read up to the name of a command spell items. -/
theorem spells_of_readUpper {behind : List String} {v : Verb} {t' : Scan}
    (unescaped : s.escaped = false) (free : "--" ∉ arguments)
    (read : readUpper s arguments = .ok (t, some (v, behind))) (settled : t.settle = .ok t') :
    ∃ before w g items, arguments = before ++ v.name :: behind ∧ Stands w s g ∧
      Spells .upper w before items ∧ items.foldlM Given.add g = .ok t'.given := by
  induction arguments generalizing s with
  | nil => cases read
  | cons a more ih =>
      rw [readUpper] at read
      split at read
      next u found =>
        cases read
        split at found
        next =>
          obtain rfl := Verb.ofName?_eq_some_iff.mp found
          obtain ⟨g, stands, rfl⟩ := (settle_eq_ok_iff unescaped).mp settled
          exact ⟨[], none, g, [], rfl, stands, .nil, rfl⟩
        next => cases found
      next =>
        split at read
        next => cases read
        next =>
          obtain ⟨here, later⟩ := List.ne_and_not_mem_of_not_mem_cons free
          obtain ⟨s', first, rest⟩ := bind_eq_ok.mp read
          have step := Step.of_argument unescaped here.symm first
          obtain ⟨before, w, g, items, rfl, stands, spells, adds⟩ := ih step.unescaped later rest
          obtain ⟨w', g₁, others, stands, spells, adds⟩ := step.spells stands spells adds
          exact ⟨a :: before, w', g₁, others, rfl, stands, spells, adds⟩

/-- What a command line says: items on two levels, with a command between them. -/
structure Says (arguments : List String) (v : Verb) (upper lower : List Item) : Prop where
  /-- The arguments before the name of the command spell the upper items, and those behind it
  the lower ones. -/
  spells : ∃ before behind, arguments = before ++ v.name :: behind ∧
    Spells .upper none before upper ∧ Spells (.lower v) none behind lower

/-- A command line says one thing at most. -/
theorem Says.unique {v v' : Verb} {upper lower upper' lower' : List Item}
    (left : Says arguments v upper lower) (right : Says arguments v' upper' lower') :
    v = v' ∧ upper = upper' ∧ lower = lower' := by
  obtain ⟨before, behind, rfl, upper, lower⟩ := left
  obtain ⟨before', behind', same, upper', lower'⟩ := right
  obtain ⟨rfl, rfl, rfl⟩ := upper.unique_command upper' same
  exact ⟨rfl, upper.unique upper', lower.unique lower'⟩

/-- The invocation that items on two levels, a command and the environment make. -/
def Makes (env : Environment) (v : Verb) (upper lower : List Item) (i : Invocation) : Prop :=
  ∃ g under command, upper.foldlM Given.add {} = .ok under ∧
    lower.foldlM Given.add {} = .ok g ∧ Command.ofGiven v g = .ok command ∧
    i = .ofGiven (g.laidOver (under.laidOver (.ofEnvironment env))) command

/-- A command line that says items is read as what they make. -/
theorem Says.read_eq {env : Environment} {v : Verb} {upper lower : List Item} {i : Invocation}
    (line : Says arguments v upper lower) (makes : Makes env v upper lower i) :
    Invocation.read env arguments = .ok i := by
  obtain ⟨before, behind, rfl, spells, spells'⟩ := line
  obtain ⟨g, under, command, adds, adds', complete, rfl⟩ := makes
  obtain ⟨t, read, last⟩ := spells.readUpper behind (.settled {}) adds
  exact bind_eq_ok.mpr ⟨_, read, bind_eq_ok.mpr ⟨g, spells'.readLower adds',
    bind_eq_ok.mpr ⟨command, complete, bind_eq_ok.mpr ⟨_, last, rfl⟩⟩⟩⟩

/-- A command line that is read says items, and is read as what they make. -/
theorem says_of_read {env : Environment} {i : Invocation} (free : "--" ∉ arguments)
    (read : Invocation.read env arguments = .ok i) :
    ∃ v upper lower, Says arguments v upper lower ∧ Makes env v upper lower i := by
  obtain ⟨⟨s, named⟩, upper, read⟩ := bind_eq_ok.mp read
  cases named with
  | none =>
      obtain ⟨_, _, halted⟩ := bind_eq_ok.mp read
      cases halted
  | some named =>
      obtain ⟨v, behind⟩ := named
      obtain ⟨g, lower, read⟩ := bind_eq_ok.mp read
      obtain ⟨command, complete, read⟩ := bind_eq_ok.mp read
      -- The upper level is settled last, when the lower one is already complete.
      obtain ⟨t, settled, same⟩ := bind_eq_ok.mp read
      cases same
      obtain ⟨before, w, g₀, items, rfl, stands, spells, adds⟩ :=
        spells_of_readUpper rfl free upper settled
      obtain ⟨rfl, rfl⟩ := stands.start
      have later : "--" ∉ behind := fun mem =>
        free (List.mem_append_right _ (List.mem_cons_of_mem _ mem))
      obtain ⟨others, spells', adds'⟩ := spells_of_readLower later lower
      exact ⟨v, items, others, ⟨before, behind, rfl, spells, spells'⟩,
        g, t.given, command, adds, adds', complete, rfl⟩

end SqlGateway.CommandLine
