import Bundler.CommandLine.Command
import Mathlib.Data.List.Forall2
import Mathlib.Data.List.TakeWhile

/-! # The values of a flag

What the arguments of a command give one of its flags can be told without reading the others
(`CommandLine.valuesOf`): no value of a flag looks like a flag. A command that collects the values
of a flag in a list has exactly these in it, in order, and each as the flag reads it
(`CommandLine.Grammar.fed_of_read`). Reading may be ahead of what the record shows by one flag,
whose value has not been looked at; with what is still due (`CommandLine.Reading.due`), each
argument keeps the balance. -/

set_option autoImplicit false

namespace Bundler

/-! ## Texts with an equals sign -/

/-- Where the first equals sign stands. -/
theorem span_equals_iff (cs key value : List Char) :
    cs.takeWhile (· != '=') = key ∧ cs.dropWhile (· != '=') = '=' :: value ↔
      cs = key ++ '=' :: value ∧ '=' ∉ key := by
  constructor
  · rintro ⟨rfl, hdrop⟩
    refine ⟨?_, fun hmem => ?_⟩
    · rw [← hdrop, List.takeWhile_append_dropWhile]
    · simpa using List.mem_takeWhile_imp hmem
  · rintro ⟨rfl, hkey⟩
    have hpos : ∀ c ∈ key, (c != '=') = true := fun c hc => bne_iff_ne.2 fun heq => hkey (heq ▸ hc)
    rw [List.takeWhile_append_of_pos hpos, List.dropWhile_append_of_pos hpos]
    simp

/-- What is left behind the characters in front of the first equals sign begins with it. -/
theorem eq_equals_of_dropWhile {cs value : List Char} {c : Char}
    (h : cs.dropWhile (· != '=') = c :: value) : c = '=' := by
  have hhead := List.head?_dropWhile_not (· != '=') cs
  rw [h] at hhead
  simpa using hhead

/-- A text of a key and a value, split at its first equals sign: the key has none, the value may
have some. -/
def IsPair (text : String) (entry : String × String) : Prop :=
  text = entry.1 ++ "=" ++ entry.2 ∧ '=' ∉ entry.1.toList

instance (text : String) (entry : String × String) : Decidable (IsPair text entry) :=
  inferInstanceAs (Decidable (_ ∧ _))

theorem isPair_iff (text : String) (entry : String × String) :
    IsPair text entry ↔
      text.toList = entry.1.toList ++ '=' :: entry.2.toList ∧ '=' ∉ entry.1.toList := by
  rw [IsPair, ← String.toList_inj, String.toList_append, String.toList_append, List.append_assoc]
  rfl

theorem splitKeyValue_eq_ok_iff (text : String) (entry : String × String) :
    splitKeyValue text = .ok entry ↔ IsPair text entry := by
  rw [isPair_iff, ← span_equals_iff]
  unfold splitKeyValue
  cases hdrop : text.toList.dropWhile (· != '=') with
  | nil => simp [hdrop]
  | cons c rest =>
      obtain rfl := eq_equals_of_dropWhile hdrop
      simp [hdrop, Prod.ext_iff, String.ext_iff]

/-- A text is a pair in one way only. -/
theorem IsPair.unique {text : String} {entry entry' : String × String} (h : IsPair text entry)
    (h' : IsPair text entry') : entry = entry' := by
  rw [← splitKeyValue_eq_ok_iff] at h h'
  exact Except.ok.inj (h.symm.trans h')

namespace CommandLine

open Reading (splitFlag)

theorem ne_equals_eq : (fun c : Char => decide (c ≠ '=')) = (· != '=') := by
  funext c
  exact decide_not

theorem splitFlag_eq_some_iff (cs : List Char) (name value : String) :
    splitFlag cs = (name, some value) ↔
      cs = name.toList ++ '=' :: value.toList ∧ '=' ∉ name.toList := by
  rw [← span_equals_iff, splitFlag, ne_equals_eq]
  cases hdrop : cs.dropWhile (· != '=') with
  | nil => simp
  | cons c rest =>
      obtain rfl := eq_equals_of_dropWhile hdrop
      simp [String.ext_iff]

theorem splitFlag_eq_none_iff (cs : List Char) (name : String) :
    splitFlag cs = (name, none) ↔ cs = name.toList ∧ '=' ∉ name.toList := by
  rw [splitFlag, ne_equals_eq]
  cases hdrop : cs.dropWhile (· != '=') with
  | nil =>
      have hno : ∀ c ∈ cs, (c != '=') = true := List.dropWhile_eq_nil_iff.1 hdrop
      rw [List.takeWhile_eq_self_iff.2 hno, Prod.mk.injEq, String.ext_iff, String.toList_ofList]
      constructor
      · rintro ⟨rfl, -⟩
        exact ⟨rfl, fun hmem => bne_iff_ne.1 (hno '=' hmem) rfl⟩
      · rintro ⟨rfl, -⟩
        exact ⟨rfl, rfl⟩
  | cons c rest =>
      obtain rfl := eq_equals_of_dropWhile hdrop
      obtain ⟨hsplit, -⟩ := (span_equals_iff cs _ rest).1 ⟨rfl, hdrop⟩
      have hmem : '=' ∈ cs := hsplit ▸ List.mem_append_right _ List.mem_cons_self
      refine ⟨fun h => ?_, fun ⟨hcs, hno⟩ => absurd (hcs ▸ hmem) hno⟩
      cases h

/-! ## What the arguments say -/

/-- The value that an argument gives a flag behind an equals sign. -/
def attached? (name argument : String) : Option String :=
  (("--" ++ name ++ "=").toList.isPrefixOf? argument.toList).map String.ofList

/-- The value that the argument behind a flag is, unless it begins with a hyphen and has something
behind it. -/
def next? : List String → Option String
  | [] => none
  | argument :: _ =>
    match argument.toList with
    | '-' :: _ :: _ => none
    | _ => some argument

/-- The values that arguments give a flag, in order. Two hyphens alone end the flags. -/
def valuesOf (name : String) : List String → List String
  | [] => []
  | argument :: rest =>
    if argument = "--" then []
    else if argument = "--" ++ name then (next? rest).toList ++ valuesOf name rest
    else (attached? name argument).toList ++ valuesOf name rest

section

variable {name argument : String} {cs : List Char}

theorem attached?_eq_some_iff (hargument : argument.toList = '-' :: '-' :: cs)
    (hname : '=' ∉ name.toList) (value : String) :
    attached? name argument = some value ↔ splitFlag cs = (name, some value) := by
  have hflag : ("--" ++ name ++ "=").toList = '-' :: '-' :: (name.toList ++ ['=']) := by simp
  rw [attached?, Option.map_eq_some_iff, splitFlag_eq_some_iff, hargument, hflag]
  simp only [List.isPrefixOf?_eq_some_iff_append_eq, String.ext_iff, String.toList_ofList,
    exists_eq_right]
  simp [hname, eq_comm]

theorem eq_flag_iff (hargument : argument.toList = '-' :: '-' :: cs) (hname : '=' ∉ name.toList) :
    argument = "--" ++ name ↔ splitFlag cs = (name, none) := by
  rw [splitFlag_eq_none_iff, ← String.toList_inj, hargument]
  simp [hname]

/-- What a flag among the arguments gives. -/
theorem valuesOf_flag (hargument : argument.toList = '-' :: '-' :: cs) (hne : cs ≠ [])
    (hname : '=' ∉ name.toList) {other : String} {value? : Option String}
    (hsplit : splitFlag cs = (other, value?)) (rest : List String) :
    valuesOf name (argument :: rest) =
      (if other = name then (value?.or (next? rest)).toList else []) ++ valuesOf name rest := by
  have hend : argument ≠ "--" := by
    rintro rfl
    exact hne (List.cons.inj (List.cons.inj hargument).2).2.symm
  rw [valuesOf, if_neg hend]
  by_cases hflag : argument = "--" ++ name
  · rw [if_pos hflag]
    rw [eq_flag_iff hargument hname, hsplit] at hflag
    obtain ⟨rfl, rfl⟩ := Prod.mk.inj hflag
    simp
  · rw [if_neg hflag]
    rw [eq_flag_iff hargument hname, hsplit] at hflag
    cases hattached : attached? name argument with
    | some value =>
        rw [attached?_eq_some_iff hargument hname, hsplit] at hattached
        obtain ⟨rfl, rfl⟩ := Prod.mk.inj hattached
        simp
    | none =>
        have hother : other ≠ name := by
          rintro rfl
          cases value? with
          | none => exact hflag rfl
          | some value =>
              rw [(attached?_eq_some_iff hargument hname value).2 hsplit] at hattached
              cases hattached
        simp [hother]

/-- What is no flag gives nothing. -/
theorem valuesOf_other (hargument : ∀ c cs, argument.toList ≠ '-' :: c :: cs)
    (rest : List String) : valuesOf name (argument :: rest) = valuesOf name rest := by
  have hend : argument ≠ "--" := by
    rintro rfl
    exact hargument _ _ rfl
  have hflag : argument ≠ "--" ++ name := by
    rintro rfl
    exact hargument '-' name.toList (by simp)
  have hattached : attached? name argument = none := by
    rw [attached?, Option.map_eq_none_iff, Option.eq_none_iff_forall_ne_some]
    intro value hprefix
    rw [List.isPrefixOf?_eq_some_iff_append_eq] at hprefix
    exact hargument '-' (name.toList ++ '=' :: value) (by simp [← hprefix])
  rw [valuesOf, if_neg hend, if_neg hflag, hattached]
  rfl

end

/-! ## Lists that grow by what is given -/

/-- Entries have been added to a list, one for each text. -/
def Fed {α : Type} (reads : String → α → Prop) (texts : List String) (before after : List α) :
    Prop := ∃ entries, List.Forall₂ reads texts entries ∧ after = before ++ entries

section

variable {α : Type} {reads : String → α → Prop} {texts texts' : List String} {a b c : List α}

theorem Fed.none (a : List α) : Fed reads [] a a := ⟨[], .nil, (List.append_nil a).symm⟩

theorem Fed.append (h : Fed reads texts a b) (h' : Fed reads texts' b c) :
    Fed reads (texts ++ texts') a c := by
  obtain ⟨entries, hentries, rfl⟩ := h
  obtain ⟨entries', hentries', rfl⟩ := h'
  exact ⟨entries ++ entries', List.rel_append hentries hentries', List.append_assoc _ _ _⟩

theorem Fed.of_nil (h : Fed reads texts [] b) : List.Forall₂ reads texts b := by
  obtain ⟨entries, hentries, rfl⟩ := h
  exact hentries

end

/-! ## Commands that collect the values of a flag -/

section

variable {σ α : Type}

/-- A flag adds its values to a list in the record, if it has the name, and leaves the list as it is
if not. -/
structure Flag.Feeds (f : Flag σ) (name : String) (reads : String → α → Prop)
    (look : σ → List α) : Prop where
  takes : f.name = name → f.takes = .values
  feeds : ∀ text change, f.read text = .ok change →
    ∀ s, Fed reads (if f.name = name then [text] else []) (look s) (look (change s))

/-- A command collects the values of a flag in a list of its record. -/
structure Grammar.Feeds (g : Grammar σ) (name : String) (reads : String → α → Prop)
    (look : σ → List α) : Prop where
  noEquals : '=' ∉ name.toList
  flags : ∀ f ∈ g.flags, f.Feeds name reads look
  operand : ∀ put, g.operand = some put → ∀ text s, look (put text s) = look s

namespace Reading

/-- The last flag is one of the command. -/
def Known (g : Grammar σ) (r : Reading σ) : Prop :=
  ∀ f value?, r.last = some (f, value?) → f ∈ g.flags

/-- The value of the last flag that has not been looked at, if the flag has the name. -/
def pending (name : String) (r : Reading σ) : List String :=
  match r.last with
  | none => []
  | some (f, value?) => if f.name = name then value?.toList else []

/-- The values that a flag is still to be given. -/
def due (name : String) (r : Reading σ) (arguments : List String) : List String :=
  if r.ended then r.pending name
  else
    (match r.last with
      | none => []
      | some (f, value?) => if f.name = name then (value?.or (next? arguments)).toList else [])
    ++ valuesOf name arguments

/-- What has been done when a flag has been looked at. -/
theorem exists_change_of_take {r r' : Reading σ} {f : Flag σ} {value? : Option String}
    (h : r.take f value? = .ok r') :
    ∃ value change, f.read value = .ok change ∧ (f.takes = .values → value? = some value) ∧
      r' = { r with record := change r.record, given := f.name :: r.given } := by
  unfold take at h
  simp only [bind, Except.bind, pure, Except.pure, throw, throwThe, MonadExceptOf.throw] at h
  split at h
  case h_4 => cases h
  -- wherever the value comes from, it is looked at in the same way
  all_goals
    split at h
    · cases h
    · split at h
      · rename_i change hread
        refine ⟨_, change, hread, fun hvalues => ?_, (Except.ok.inj h).symm⟩
        simp_all
      · cases h
      · cases h

variable {g : Grammar σ} {name : String} {reads : String → α → Prop} {look : σ → List α}
  {r r' : Reading σ}

/-- A flag that has been looked at has added its value. -/
theorem fed_of_take (h : g.Feeds name reads look) {f : Flag σ} (hf : f ∈ g.flags)
    {value? : Option String} (htake : r.take f value? = .ok r') :
    Fed reads (if f.name = name then value?.toList else []) (look r.record) (look r'.record) ∧
      (f.name = name → value? ≠ none) ∧ r'.last = r.last ∧ r'.ended = r.ended := by
  obtain ⟨value, change, hread, hvalue, rfl⟩ := exists_change_of_take htake
  have hfed := (h.flags f hf).feeds value change hread r.record
  refine ⟨?_, fun hname => ?_, rfl, rfl⟩
  · by_cases hname : f.name = name
    · rw [hvalue ((h.flags f hf).takes hname)]
      rw [if_pos hname] at hfed ⊢
      exact hfed
    · rw [if_neg hname] at hfed ⊢
      exact hfed
  · rw [hvalue ((h.flags f hf).takes hname)]
    exact Option.some_ne_none value

/-- So has the last flag. -/
theorem fed_of_settle (h : g.Feeds name reads look) (hknown : r.Known g)
    (hsettle : r.settle = .ok r') :
    Fed reads (r.pending name) (look r.record) (look r'.record) ∧
      r'.last = none ∧ r'.ended = r.ended := by
  unfold settle at hsettle
  unfold pending
  cases hlast : r.last with
  | none =>
      rw [hlast] at hsettle
      obtain rfl := Except.ok.inj hsettle
      exact ⟨Fed.none _, hlast, rfl⟩
  | some last =>
      obtain ⟨f, value?⟩ := last
      rw [hlast] at hsettle
      obtain ⟨hfed, -, hnone, hended⟩ := fed_of_take h (hknown f value? hlast) hsettle
      exact ⟨hfed, hnone, hended⟩

/-- The next argument is no value of the last flag once that has been looked at. -/
theorem due_of_settle (h : g.Feeds name reads look) (hknown : r.Known g)
    (hsettle : r.settle = .ok r') (hended : r.ended = false) (arguments : List String) :
    r.due name arguments = r.pending name ++ valuesOf name arguments := by
  unfold settle at hsettle
  unfold due pending
  rw [hended]
  cases hlast : r.last with
  | none => simp
  | some last =>
      obtain ⟨f, value?⟩ := last
      rw [hlast] at hsettle
      obtain ⟨-, hvalue, -⟩ := fed_of_take h (hknown f value? hlast) hsettle
      cases value? with
      | some value => simp
      | none =>
          have hname : f.name ≠ name := fun hname => hvalue hname rfl
          simp [hname]

/-- At the end only the value of the last flag is due. -/
theorem due_nil : r.due name [] = r.pending name := by
  unfold due pending
  split
  · rfl
  · cases r.last with
    | none => rfl
    | some last => simp [next?, valuesOf]

theorem due_of_last_none (hlast : r.last = none) (arguments : List String) :
    r.due name arguments = if r.ended then [] else valuesOf name arguments := by
  simp [due, pending, hlast]

/-- An operand adds nothing to the list. -/
theorem fed_of_readOperand (h : g.Feeds name reads look) (hknown : r.Known g) {argument : String}
    (hread : r.readOperand g argument = .ok r') :
    (∃ settled, r.settle = .ok settled) ∧
      Fed reads (r.pending name) (look r.record) (look r'.record) ∧
      r'.last = none ∧ r'.ended = r.ended := by
  unfold readOperand at hread
  cases hoperand : g.operand with
  | none =>
      rw [hoperand] at hread
      cases hread
  | some put =>
      cases hsettle : r.settle with
      | error stop =>
          simp only [hoperand, hsettle] at hread
          cases hread
      | ok settled =>
          simp only [hoperand, hsettle] at hread
          obtain rfl := Except.ok.inj hread
          obtain ⟨hfed, hlast, hended⟩ := fed_of_settle h hknown hsettle
          refine ⟨⟨settled, rfl⟩, ?_, hlast, hended⟩
          show Fed reads _ _ (look (put argument settled.record))
          rw [h.operand put hoperand]
          exact hfed

theorem stopForHelp_ne_ok (attached : Option String) : r.stopForHelp attached ≠ .ok r' := by
  intro hstop
  unfold stopForHelp at hstop
  cases attached with
  | some value => cases hstop
  | none =>
      cases hsettle : r.settle with
      | error stop =>
          simp only [hsettle] at hstop
          cases hstop
      | ok settled =>
          simp only [hsettle] at hstop
          cases hstop

/-- A flag is known, and is looked at now or left for later. -/
theorem exists_flag_of_readFlag {other : String} {value? : Option String}
    (hread : r.readFlag g other value? = .ok r') :
    ∃ settled f, r.settle = .ok settled ∧ f ∈ g.flags ∧ f.name = other ∧
      (settled.take f value? = .ok r' ∨
        value? = none ∧ r' = { settled with last := some (f, none) }) := by
  unfold readFlag at hread
  cases hfind : g.flags.find? fun f => f.name == other with
  | none =>
      simp only [hfind] at hread
      split at hread
      · exact absurd hread (stopForHelp_ne_ok value?)
      · cases hread
  | some f =>
      have hf := List.mem_of_find?_eq_some hfind
      have hname : f.name = other := by simpa using List.find?_some hfind
      simp only [hfind] at hread
      cases hsettle : r.settle with
      | error stop =>
          rw [hsettle] at hread
          split at hread <;> cases hread
      | ok settled =>
          rw [hsettle] at hread
          refine ⟨settled, f, rfl, hf, hname, ?_⟩
          split at hread
          · cases hread
          · exact Or.inl hread
          · exact Or.inl hread
          · exact Or.inr ⟨rfl, (Except.ok.inj hread).symm⟩

/-- An argument keeps the balance: what it adds to the list was due, and the rest still is. -/
structure Balances (g : Grammar σ) (name : String) (reads : String → α → Prop) (look : σ → List α)
    (argument : String) (r r' : Reading σ) : Prop where
  known : r'.Known g
  fed : ∀ rest, ∃ texts, r.due name (argument :: rest) = texts ++ r'.due name rest ∧
    Fed reads texts (look r.record) (look r'.record)

theorem known_of_last_none (hlast : r.last = none) : r.Known g := by
  intro f value? hsome
  rw [hlast] at hsome
  cases hsome

theorem next?_flag {argument : String} {c : Char} {cs : List Char}
    (hargument : argument.toList = '-' :: c :: cs) (rest : List String) :
    next? (argument :: rest) = none := by
  simp [next?, hargument]

theorem next?_other {argument : String} (hargument : ∀ c cs, argument.toList ≠ '-' :: c :: cs)
    (rest : List String) : next? (argument :: rest) = some argument := by
  rw [next?]
  split
  · rename_i c cs hflag
    exact absurd hflag (hargument c cs)
  · rfl

/-- An operand, or any argument behind the flags. -/
theorem balances_operand (h : g.Feeds name reads look) (hknown : r.Known g) {argument : String}
    (hread : r.readOperand g argument = .ok r')
    (hother : r.ended = true ∨ ∀ c cs, argument.toList ≠ '-' :: c :: cs) :
    Balances g name reads look argument r r' := by
  obtain ⟨⟨settled, hsettle⟩, hfed, hlast, hended⟩ := fed_of_readOperand h hknown hread
  refine ⟨known_of_last_none hlast, fun rest => ⟨r.pending name, ?_, hfed⟩⟩
  rw [due_of_last_none hlast, hended]
  cases hopen : r.ended with
  | true => rw [due, if_pos hopen, if_pos rfl, List.append_nil]
  | false =>
      have hargument := hother.resolve_left (by simp [hopen])
      rw [due_of_settle h hknown hsettle hopen, valuesOf_other hargument, if_neg Bool.false_ne_true]

/-- The two hyphens that end the flags. -/
theorem balances_end (hknown : r.Known g) (hopen : r.ended = false) {argument : String}
    (hargument : argument.toList = ['-', '-']) :
    Balances g name reads look argument r { r with ended := true } := by
  refine ⟨hknown, fun rest => ⟨[], ?_, Fed.none _⟩⟩
  have hend : argument = "--" := String.toList_inj.1 hargument
  have hnone : valuesOf name (argument :: rest) = [] := by rw [valuesOf, if_pos hend]
  rw [due, hopen, if_neg Bool.false_ne_true, hnone, next?_flag hargument, List.append_nil,
    List.nil_append, due, if_pos rfl, pending]
  cases r.last with
  | none => rfl
  | some last => simp

/-- A flag, whether its value stands behind an equals sign or may be the next argument. -/
theorem balances_flag (h : g.Feeds name reads look) (hknown : r.Known g) (hopen : r.ended = false)
    {argument : String} {cs : List Char} (hargument : argument.toList = '-' :: '-' :: cs)
    (hne : cs ≠ []) (hread : r.readFlag g (splitFlag cs).1 (splitFlag cs).2 = .ok r') :
    Balances g name reads look argument r r' := by
  cases hsplit : splitFlag cs with
  | mk other value? =>
      rw [hsplit] at hread
      obtain ⟨settled, f, hsettle, hf, rfl, hnow | ⟨rfl, rfl⟩⟩ := exists_flag_of_readFlag hread
      · obtain ⟨hbefore, hnone, hended⟩ := fed_of_settle h hknown hsettle
        obtain ⟨hfed, hvalue, hlast, hsame⟩ := fed_of_take h hf hnow
        rw [hnone] at hlast
        refine ⟨known_of_last_none hlast, fun rest => ⟨_, ?_, hbefore.append hfed⟩⟩
        rw [due_of_settle h hknown hsettle hopen, valuesOf_flag hargument hne h.noEquals hsplit,
          due_of_last_none hlast, hsame, hended, hopen, if_neg Bool.false_ne_true,
          List.append_assoc]
        by_cases hname : f.name = name
        · obtain ⟨value, rfl⟩ := Option.ne_none_iff_exists'.1 (hvalue hname)
          simp
        · simp [hname]
      · obtain ⟨hbefore, -, hended⟩ := fed_of_settle h hknown hsettle
        refine ⟨?_, fun rest => ⟨_, ?_, hbefore⟩⟩
        · intro last value? hsome
          obtain ⟨rfl, -⟩ := Prod.mk.inj (Option.some.inj hsome)
          exact hf
        · rw [due_of_settle h hknown hsettle hopen, valuesOf_flag hargument hne h.noEquals hsplit]
          simp [due, hended, hopen]

/-- The value of a flag as an argument of its own. -/
theorem balances_value (hknown : r.Known g) (hopen : r.ended = false) {f : Flag σ}
    (hlast : r.last = some (f, none)) {argument : String}
    (hargument : ∀ c cs, argument.toList ≠ '-' :: c :: cs) :
    Balances g name reads look argument r { r with last := some (f, some argument) } := by
  refine ⟨?_, fun rest => ⟨[], ?_, Fed.none _⟩⟩
  · intro last value? hsome
    obtain ⟨rfl, -⟩ := Prod.mk.inj (Option.some.inj hsome)
    exact hknown f none hlast
  · simp [due, hopen, hlast, next?_other hargument, valuesOf_other hargument]

/-- Each argument keeps the balance. -/
theorem balances_step (h : g.Feeds name reads look) (hknown : r.Known g) {argument : String}
    (hstep : Reading.step g r argument = .ok r') : Balances g name reads look argument r r' := by
  unfold step at hstep
  split at hstep
  · rename_i hended
    exact balances_operand h hknown hstep (Or.inl hended)
  · rename_i hended
    have hopen : r.ended = false := Bool.eq_false_iff.2 hended
    split at hstep
    · rename_i hargument
      obtain rfl := Except.ok.inj hstep
      exact balances_end hknown hopen hargument
    · rename_i cs hne hargument
      exact balances_flag h hknown hopen hargument hne hstep
    · split at hstep
      · exact absurd hstep (stopForHelp_ne_ok none)
      · cases hstep
    · rename_i hargument
      split at hstep
      · rename_i f hlast
        obtain rfl := Except.ok.inj hstep
        exact balances_value hknown hopen hlast hargument
      · exact balances_operand h hknown hstep (Or.inr hargument)

/-- So a run of them adds to the list what was due. -/
theorem fed_of_foldlM (h : g.Feeds name reads look) {arguments : List String} (hknown : r.Known g)
    (hrun : arguments.foldlM (Reading.step g) r = .ok r') :
    r'.Known g ∧ ∃ texts, r.due name arguments = texts ++ r'.due name [] ∧
      Fed reads texts (look r.record) (look r'.record) := by
  induction arguments generalizing r with
  | nil =>
      obtain rfl := Except.ok.inj hrun
      exact ⟨hknown, [], rfl, Fed.none _⟩
  | cons argument rest ih =>
      rw [List.foldlM_cons] at hrun
      cases hstep : Reading.step g r argument with
      | error stop =>
          rw [hstep] at hrun
          cases hrun
      | ok next =>
          rw [hstep] at hrun
          obtain ⟨hnext, hfed⟩ := balances_step h hknown hstep
          obtain ⟨texts, hdue, hfed⟩ := hfed rest
          obtain ⟨hend, texts', hdue', hfed'⟩ := ih hnext hrun
          refine ⟨hend, texts ++ texts', ?_, hfed.append hfed'⟩
          rw [hdue, hdue', List.append_assoc]

end Reading

/-- What a command collects from its arguments is what they give the flag. -/
theorem Grammar.fed_of_read {g : Grammar σ} {name : String} {reads : String → α → Prop}
    {look : σ → List α} (h : g.Feeds name reads look) {s s' : σ} {arguments : List String}
    (hread : g.read s arguments = .ok s') :
    Fed reads (valuesOf name arguments) (look s) (look s') := by
  unfold Grammar.read at hread
  cases hrun : arguments.foldlM (Reading.step g) { record := s } with
  | error stop =>
      rw [hrun] at hread
      cases hread
  | ok r =>
      cases hsettle : r.settle with
      | error stop =>
          simp only [hrun, hsettle, bind, Except.bind] at hread
          cases hread
      | ok settled =>
          simp only [hrun, hsettle, bind, Except.bind] at hread
          obtain rfl := Except.ok.inj hread
          obtain ⟨hknown, texts, hdue, hfed⟩ :=
            Reading.fed_of_foldlM h (Reading.known_of_last_none rfl) hrun
          obtain ⟨hlast, -⟩ := Reading.fed_of_settle h hknown hsettle
          rw [Reading.due_nil] at hdue
          have hall : valuesOf name arguments = texts ++ r.pending name := by
            rw [← hdue, Reading.due_of_last_none rfl, if_neg Bool.false_ne_true]
          rw [hall]
          exact hfed.append hlast

end

end CommandLine

end Bundler
