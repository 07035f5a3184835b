import Mathlib.Data.List.Induction
import Mathlib.Data.List.TakeWhile
import RecordFlow.Proofs.Config.Merging

/-!
# Reading — what the lines of a text come to

Of the lines of a text only two kinds count: a heading between brackets begins a section
(`Opens`), and a setting gives a key a value (`Sets`).  Which section a line belongs to is told by
the last heading before it (`Under`), and what a key comes to by the last setting of it in its
section (`Assigns`).  None of this looks at the reader, which keeps a section and a configuration
while it goes through the lines.

* `register_iff` says that the reader finds what the lines assign,
* `addAll_merge` says that a text read behind another one is laid over it,
* `reading_and_merging_agree` puts them together with the laws of merging.
-/

namespace RecordFlow
namespace Config

/-! ## What a line says -/

/-- A comment, or a line that is blank. -/
def IsRemark (line : List Char) : Prop :=
  Blank.trimChars line = [] ∨
    ∃ rest, Blank.trimChars line = ';' :: rest ∨ Blank.trimChars line = '#' :: rest

/-- A heading is a name between brackets. -/
def Opens (line : List Char) (name : String) : Prop :=
  ∃ inner, Blank.trimChars line = '[' :: (inner ++ [']']) ∧ trimmed inner = name

/-- A setting is a key and a value around the first equals sign of a line that is neither a comment
nor a heading. -/
def Sets (line : List Char) (key value : String) : Prop :=
  ¬ IsRemark line ∧ (∀ name, ¬ Opens line name) ∧
    ∃ front back, Blank.trimChars line = front ++ '=' :: back ∧ '=' ∉ front ∧
      trimmed front = key ∧ trimmed back = value

theorem bracketed?_eq_some_iff (cs inner : List Char) :
    bracketed? cs = some inner ↔ cs = '[' :: (inner ++ [']']) := by
  constructor
  · intro h
    unfold bracketed? at h
    split at h
    · rename_i rest
      split at h
      · rename_i hlast
        cases h
        rw [List.dropLast_append_getLast? ']' hlast]
      · cases h
    · cases h
  · rintro rfl
    simp [bracketed?]

/-- Around the first equals sign. -/
theorem split_at_equals {front : List Char} (hfront : '=' ∉ front) (back : List Char) :
    (front ++ '=' :: back).takeWhile (· ≠ '=') = front ∧
      (front ++ '=' :: back).dropWhile (· ≠ '=') = '=' :: back := by
  have hall : ∀ c ∈ front, decide (c ≠ '=') = true := by
    intro c hc
    refine decide_eq_true ?_
    rintro rfl
    exact hfront hc
  constructor
  · rw [List.takeWhile_append_of_pos hall]
    simp
  · rw [List.dropWhile_append_of_pos hall]
    simp

theorem opens_iff_bracketed? (line : List Char) (name : String) :
    Opens line name ↔ ∃ inner, bracketed? (Blank.trimChars line) = some inner ∧
      trimmed inner = name := by
  simp only [Opens, bracketed?_eq_some_iff]

theorem not_isRemark_of_opens {line : List Char} {name : String} (hopens : Opens line name) :
    ¬ IsRemark line := by
  rcases hopens with ⟨inner, hline, _⟩
  rintro (hnone | ⟨rest, hrest | hrest⟩)
  · rw [hline] at hnone
    cases hnone
  · rw [hline] at hrest
    exact absurd (List.cons.inj hrest).1 (by decide)
  · rw [hline] at hrest
    exact absurd (List.cons.inj hrest).1 (by decide)

theorem read_of_isRemark {line : List Char} (hremark : IsRemark line) :
    Line.read line = .nothing := by
  unfold Line.read
  rcases hremark with hnone | ⟨rest, hrest | hrest⟩
  · rw [hnone]
  · rw [hrest]
    rfl
  · rw [hrest]
    rfl

theorem read_of_not_isRemark {line : List Char} (hremark : ¬ IsRemark line) :
    Line.read line =
      match bracketed? (Blank.trimChars line) with
      | some name => .heading (trimmed name)
      | none =>
        match (Blank.trimChars line).dropWhile (· ≠ '=') with
        | [] => .nothing
        | _ :: value =>
          .setting (trimmed ((Blank.trimChars line).takeWhile (· ≠ '='))) (trimmed value) := by
  -- the three shapes that a remark has are ruled out
  fun_cases Line.read line with
  | case1 cs hline => exact absurd (.inl hline) hremark
  | case2 cs rest hline => exact absurd (.inr ⟨rest, .inl hline⟩) hremark
  | case3 cs rest hline => exact absurd (.inr ⟨rest, .inr hline⟩) hremark
  | case4 cs name hname => rw [hname]
  | case5 cs hname hback =>
    rw [hname]
    dsimp only
    rw [hback]
  | case6 cs hname c value hback =>
    rw [hname]
    dsimp only
    rw [hback]

theorem read_eq_heading_iff (line : List Char) (name : String) :
    Line.read line = .heading name ↔ Opens line name := by
  by_cases hremark : IsRemark line
  · have hnot : ¬ Opens line name := fun hopens => not_isRemark_of_opens hopens hremark
    simp [read_of_isRemark hremark, hnot]
  · rw [read_of_not_isRemark hremark, opens_iff_bracketed?]
    cases hinner : bracketed? (Blank.trimChars line) with
    | some inner => simp
    | none =>
      dsimp only
      split <;> simp

theorem read_eq_setting_iff (line : List Char) (key value : String) :
    Line.read line = .setting key value ↔ Sets line key value := by
  by_cases hremark : IsRemark line
  · simp [read_of_isRemark hremark, Sets, hremark]
  rw [read_of_not_isRemark hremark]
  cases hinner : bracketed? (Blank.trimChars line) with
  | some inner =>
    -- a heading sets nothing, even with an equals sign in its name
    have hopens : Opens line (trimmed inner) :=
      (opens_iff_bracketed? line _).2 ⟨inner, hinner, rfl⟩
    have hnot : ¬ Sets line key value := fun hsets => hsets.2.1 _ hopens
    simp [hnot]
  | none =>
    have hnone : ∀ name, ¬ Opens line name := by
      intro name hopens
      rcases (opens_iff_bracketed? line name).1 hopens with ⟨inner, hsome, _⟩
      rw [hinner] at hsome
      cases hsome
    constructor
    · intro hread
      dsimp only at hread
      split at hread
      · cases hread
      · rename_i c back hback
        rcases Line.setting.inj hread with ⟨hkey, hvalue⟩
        have hequals : c = '=' := by
          have hhead := List.head?_dropWhile_not (· ≠ '=') (Blank.trimChars line)
          rw [hback] at hhead
          simpa using hhead
        refine ⟨hremark, hnone, (Blank.trimChars line).takeWhile (· ≠ '='), back, ?_, ?_, hkey,
          hvalue⟩
        · rw [hequals] at hback
          rw [← hback, List.takeWhile_append_dropWhile]
        · intro hmem
          simpa using List.mem_takeWhile_imp hmem
    · rintro ⟨_, _, front, back, hline, hfront, rfl, rfl⟩
      rcases split_at_equals hfront back with ⟨htake, hdrop⟩
      rw [hline, hdrop, htake]

/-! ## Sections and assignments -/

/-- A list with one item behind it is split at that item or before it. -/
theorem append_singleton_eq_iff {α : Type} {as bs cs : List α} {a b : α} :
    as ++ [a] = bs ++ b :: cs ↔
      (as = bs ∧ a = b ∧ cs = []) ∨ ∃ most, cs = most ++ [a] ∧ as = bs ++ b :: most := by
  constructor
  · intro hsplit
    rcases List.eq_nil_or_concat' cs with rfl | ⟨most, last, rfl⟩
    · rcases List.append_inj' hsplit rfl with ⟨rfl, hsame⟩
      exact .inl ⟨rfl, List.singleton_inj.1 hsame, rfl⟩
    · rw [← List.cons_append, ← List.append_assoc] at hsplit
      rcases List.append_inj' hsplit rfl with ⟨rfl, hsame⟩
      exact .inr ⟨most, by rw [hsame], rfl⟩
  · rintro (⟨rfl, rfl, rfl⟩ | ⟨most, rfl, rfl⟩)
    · rfl
    · simp

/-- The section of a line that comes behind some lines: that of the last heading among them, and the
one without a name before any heading. -/
def Under (before : List (List Char)) (name : String) : Prop :=
  (∃ front heading rest, before = front ++ heading :: rest ∧ Opens heading name ∧
      ∀ line ∈ rest, ∀ other, ¬ Opens line other) ∨
    ((∀ line ∈ before, ∀ other, ¬ Opens line other) ∧ name = "")

/-- What some lines assign to a key of a section: the value in the last line of that section which
sets the key. -/
def Assigns (ls : List (List Char)) (name key value : String) : Prop :=
  ∃ before line after, ls = before ++ line :: after ∧ Under before name ∧ Sets line key value ∧
    ∀ between later rest other, after = between ++ later :: rest →
      Under (before ++ line :: between) name → ¬ Sets later key other

/-- A line behind others begins a section, or leaves them in the one that they are in. -/
theorem under_append_singleton_iff (before : List (List Char)) (line : List Char)
    (name : String) :
    Under (before ++ [line]) name ↔
      Opens line name ∨ ((∀ other, ¬ Opens line other) ∧ Under before name) := by
  constructor
  · rintro (⟨front, heading, rest, hsplit, hopens, hrest⟩ | ⟨hnone, hname⟩)
    · rcases append_singleton_eq_iff.1 hsplit with ⟨_, rfl, _⟩ | ⟨most, rfl, hbefore⟩
      · -- the heading is the last line
        exact .inl hopens
      · refine .inr ⟨hrest line (by simp), .inl ⟨front, heading, most, hbefore, hopens, ?_⟩⟩
        exact fun l hl => hrest l (by simp [hl])
    · exact .inr ⟨hnone line (by simp), .inr ⟨fun l hl => hnone l (by simp [hl]), hname⟩⟩
  · rintro (hopens | ⟨hnot, ⟨front, heading, rest, rfl, hopens, hrest⟩ | ⟨hnone, hname⟩⟩)
    · exact .inl ⟨before, line, [], rfl, hopens, by simp⟩
    · refine .inl ⟨front, heading, rest ++ [line], by simp, hopens, ?_⟩
      intro l hl
      rcases List.mem_append.1 hl with hl | hl
      · exact hrest l hl
      · exact List.mem_singleton.1 hl ▸ hnot
    · refine .inr ⟨?_, hname⟩
      intro l hl
      rcases List.mem_append.1 hl with hl | hl
      · exact hnone l hl
      · exact List.mem_singleton.1 hl ▸ hnot

/-- A line behind others assigns the value that it sets the key to, if it belongs to the section and
sets it, and leaves what they assign if not. -/
theorem assigns_append_singleton_iff (ls : List (List Char)) (line : List Char)
    (name key value : String) :
    Assigns (ls ++ [line]) name key value ↔
      (Under ls name ∧ Sets line key value) ∨
        ((∀ other, ¬ (Under ls name ∧ Sets line key other)) ∧ Assigns ls name key value) := by
  constructor
  · rintro ⟨before, setting, after, hsplit, hunder, hsets, hlast⟩
    rcases append_singleton_eq_iff.1 hsplit with ⟨rfl, rfl, _⟩ | ⟨most, rfl, rfl⟩
    · exact .inl ⟨hunder, hsets⟩
    · refine .inr ⟨?_, before, setting, most, rfl, hunder, hsets, ?_⟩
      · rintro other ⟨hsection, hother⟩
        exact hlast most line [] other rfl hsection hother
      · intro between later rest other hmost
        exact hlast between later (rest ++ [line]) other (by simp [hmost])
  · rintro (⟨hunder, hsets⟩ | ⟨hnot, before, setting, after, rfl, hunder, hsets, hlast⟩)
    · exact ⟨ls, line, [], rfl, hunder, hsets, by simp⟩
    · refine ⟨before, setting, after ++ [line], by simp, hunder, hsets, ?_⟩
      intro between later rest other hafter hsection hother
      rcases append_singleton_eq_iff.1 hafter with ⟨rfl, rfl, _⟩ | ⟨most, rfl, rfl⟩
      · -- the later line is the new one
        exact hnot other ⟨hsection, hother⟩
      · exact hlast between later most other rfl hsection hother

/-! ## The reader -/

/-- A reader that goes on with some lines. -/
def Reader.addAll (r : Reader) (ls : List (List Char)) : Reader :=
  ls.foldl (fun r line => r.add (Line.read line)) r

/-- A reader before the first line. -/
def Reader.initial : Reader := ⟨empty, ""⟩

theorem read_eq (text : String) : read text = (Reader.initial.addAll (lines text)).config := rfl

@[simp]
theorem Reader.addAll_nil (r : Reader) : r.addAll [] = r := rfl

theorem Reader.addAll_append (r : Reader) (ls rest : List (List Char)) :
    r.addAll (ls ++ rest) = (r.addAll ls).addAll rest := by
  simp [Reader.addAll]

@[simp]
theorem Reader.addAll_cons (r : Reader) (line : List Char) (rest : List (List Char)) :
    r.addAll (line :: rest) = (r.add (Line.read line)).addAll rest := rfl

theorem Reader.addAll_append_singleton (r : Reader) (ls : List (List Char)) (line : List Char) :
    r.addAll (ls ++ [line]) = (r.addAll ls).add (Line.read line) := by
  rw [addAll_append]
  rfl

/-- A setting gives the defaults outside of any section, an alias in a section of aliases, and
nothing anywhere else. -/
theorem Reader.add_setting_cases (heading key value : String) :
    (heading = "" ∧ key = "defaults" ∧ ∀ c : Config,
      add ⟨c, heading⟩ (.setting key value) = ⟨{ c with defaults := some value }, heading⟩) ∨
    (heading = "aliases" ∧ ∀ c : Config,
      add ⟨c, heading⟩ (.setting key value) = ⟨c.withAlias key value, heading⟩) ∨
    (¬ (heading = "" ∧ key = "defaults") ∧ heading ≠ "aliases" ∧ ∀ c : Config,
      add ⟨c, heading⟩ (.setting key value) = ⟨c, heading⟩) := by
  by_cases hnone : heading = ""
  · subst hnone
    by_cases hkey : key = "defaults"
    · exact .inl ⟨rfl, hkey, fun c => by simp [add, hkey]⟩
    · exact .inr (.inr ⟨fun h => hkey h.2, by decide, fun c => by simp [add, hkey]⟩)
  · by_cases haliases : heading = "aliases"
    · exact .inr (.inl ⟨haliases, fun c => by simp [add, haliases, withAlias]⟩)
    · exact .inr (.inr ⟨fun h => hnone h.1, haliases, fun c => by simp [add, hnone, haliases]⟩)

theorem Reader.heading_add (r : Reader) (said : Line) :
    (r.add said).heading = match said with | .heading name => name | _ => r.heading := by
  rcases r with ⟨c, heading⟩
  cases said with
  | nothing => rfl
  | heading name => rfl
  | setting key value =>
    rcases add_setting_cases heading key value with ⟨_, _, hadd⟩ | ⟨_, hadd⟩ | ⟨_, _, hadd⟩
    · rw [hadd]
    · rw [hadd]
    · rw [hadd]

/-- The reader knows the section that it is in. -/
theorem Reader.heading_addAll_iff (ls : List (List Char)) (name : String) :
    (Reader.initial.addAll ls).heading = name ↔ Under ls name := by
  induction ls using List.reverseRecOn generalizing name with
  | nil => simp [Reader.initial, Under, eq_comm]
  | append_singleton ls line ih =>
    rw [addAll_append_singleton, heading_add, under_append_singleton_iff]
    cases hsaid : Line.read line with
    | heading other =>
      have hopens := (read_eq_heading_iff line other).1 hsaid
      -- a heading has one name
      have hname : Opens line name ↔ other = name := by
        rw [← read_eq_heading_iff, hsaid, Line.heading.injEq]
      have hsome : ¬ ∀ other, ¬ Opens line other := fun hnone => hnone other hopens
      simp [hname, hsome]
    | nothing | setting =>
      have hnone : ∀ other, ¬ Opens line other := by
        intro other hopens
        rw [← read_eq_heading_iff, hsaid] at hopens
        cases hopens
      simp [hnone, ih]

/-- A part of the configuration that a key of a section is kept in, and nothing else. -/
structure Register (part : Config → Option String) (name key : String) : Prop where
  empty : part empty = none
  set : ∀ (r : Reader) (value : String), r.heading = name →
    part (r.add (.setting key value)).config = some value
  keep : ∀ (r : Reader) (said : Line), (∀ value, ¬ (r.heading = name ∧ said = .setting key value)) →
    part (r.add said).config = part r.config

theorem register_defaults : Register Config.defaults "" "defaults" where
  empty := rfl
  set := by
    intro r value hname
    simp [Reader.add, hname]
  keep := by
    rintro ⟨c, heading⟩ said hnot
    cases said with
    | nothing => rfl
    | heading name => rfl
    | setting key value =>
      rcases Reader.add_setting_cases heading key value with
        ⟨hnone, hkey, _⟩ | ⟨_, hadd⟩ | ⟨_, _, hadd⟩
      · exact absurd ⟨hnone, by rw [hkey]⟩ (hnot value)
      · rw [hadd]
        rfl
      · rw [hadd]

theorem register_alias? (name : String) : Register (alias? · name) "aliases" name where
  empty := rfl
  set := by
    intro r value hname
    simp [Reader.add, hname, alias?_eq, meaning?_setAlias]
  keep := by
    rintro ⟨c, heading⟩ said hnot
    cases said with
    | nothing => rfl
    | heading name => rfl
    | setting key value =>
      rcases Reader.add_setting_cases heading key value with
        ⟨_, _, hadd⟩ | ⟨haliases, hadd⟩ | ⟨_, _, hadd⟩
      · rw [hadd]
        rfl
      · have hkey : key ≠ name := fun hkey => hnot value ⟨haliases, by rw [hkey]⟩
        rw [hadd, alias?_withAlias, if_neg hkey]
      · rw [hadd]

/-- A register holds what the lines assign to its key. -/
theorem register_iff {part : Config → Option String} {name key : String}
    (hregister : Register part name key) (ls : List (List Char)) (value : String) :
    part (Reader.initial.addAll ls).config = some value ↔ Assigns ls name key value := by
  induction ls using List.reverseRecOn generalizing value with
  | nil => simp [Reader.initial, hregister.empty, Assigns]
  | append_singleton ls line ih =>
    rw [Reader.addAll_append_singleton, assigns_append_singleton_iff]
    by_cases hset : ∃ other, Under ls name ∧ Sets line key other
    · rcases hset with ⟨other, hunder, hsets⟩
      have hsaid := (read_eq_setting_iff line key other).2 hsets
      have hvalue : Sets line key value ↔ other = value := by
        rw [← read_eq_setting_iff, hsaid, Line.setting.injEq]
        exact and_iff_right rfl
      rw [hsaid, hregister.set _ _ ((Reader.heading_addAll_iff ls name).2 hunder),
        Option.some_inj, hvalue]
      constructor
      · intro hsame
        exact .inl ⟨hunder, hsame⟩
      · rintro (⟨_, hsame⟩ | ⟨hnot, _⟩)
        · exact hsame
        · exact absurd ⟨hunder, hsets⟩ (hnot other)
    · have hnot : ∀ other, ¬ (Under ls name ∧ Sets line key other) := not_exists.1 hset
      have hkeep : ∀ other, ¬ ((Reader.initial.addAll ls).heading = name ∧
          Line.read line = .setting key other) := by
        intro other
        rw [Reader.heading_addAll_iff, read_eq_setting_iff]
        exact hnot other
      rw [hregister.keep _ _ hkeep, ih]
      simp [hnot]

theorem defaults_read_iff (text value : String) :
    (read text).defaults = some value ↔ Assigns (lines text) "" "defaults" value :=
  register_iff register_defaults (lines text) value

theorem alias?_read_iff (text name value : String) :
    (read text).alias? name = some value ↔ Assigns (lines text) "aliases" name value :=
  register_iff (register_alias? name) (lines text) value

/-! ## One text behind another -/

theorem Reader.ordered_add {r : Reader} (hordered : r.config.Ordered) (said : Line) :
    (r.add said).config.Ordered := by
  rcases r with ⟨c, heading⟩
  cases said with
  | nothing => exact hordered
  | heading name => exact hordered
  | setting key value =>
    rcases add_setting_cases heading key value with ⟨_, _, hadd⟩ | ⟨_, hadd⟩ | ⟨_, _, hadd⟩
    · rw [hadd]
      exact hordered
    · rw [hadd]
      exact Ordered.withAlias hordered key value
    · rw [hadd]
      exact hordered

theorem Reader.ordered_addAll {r : Reader} (hordered : r.config.Ordered)
    (ls : List (List Char)) : (r.addAll ls).config.Ordered := by
  induction ls generalizing r with
  | nil => exact hordered
  | cons line rest ih => exact ih (ordered_add hordered _)

theorem ordered_read (text : String) : (read text).Ordered :=
  Reader.ordered_addAll ordered_empty (lines text)

/-- The reader of a configuration that is laid over another one. -/
def Reader.over (r : Reader) (base : Config) : Reader := ⟨base.merge r.config, r.heading⟩

theorem Reader.add_over {base : Config} (hbase : base.Ordered) {r : Reader}
    (hordered : r.config.Ordered) (said : Line) :
    (r.over base).add said = (r.add said).over base := by
  rcases r with ⟨c, heading⟩
  cases said with
  | nothing => rfl
  | heading name => rfl
  | setting key value =>
    rcases add_setting_cases heading key value with ⟨_, _, hadd⟩ | ⟨_, hadd⟩ | ⟨_, _, hadd⟩
    · rw [hadd]
      exact hadd (base.merge c)
    · have hmerge := merge_withAlias hbase hordered key value
      rw [hadd]
      exact (hadd (base.merge c)).trans (congrArg (Reader.mk · heading) hmerge.symm)
    · rw [hadd]
      exact hadd (base.merge c)

/-- Lines that are read over a configuration are what they come to, laid over it. -/
theorem Reader.addAll_over {base : Config} (hbase : base.Ordered) {r : Reader}
    (hordered : r.config.Ordered) (ls : List (List Char)) :
    (r.over base).addAll ls = (r.addAll ls).over base := by
  induction ls generalizing r with
  | nil => rfl
  | cons line rest ih =>
    rw [addAll_cons, add_over hbase hordered, addAll_cons]
    exact ih (ordered_add hordered _)

/-- Behind an empty heading, lines are read as if they stood alone. -/
theorem addAll_merge (before after : List (List Char)) :
    (Reader.initial.addAll (before ++ ['[', ']'] :: after)).config =
      (Reader.initial.addAll before).config.merge (Reader.initial.addAll after).config := by
  have hordered := Reader.ordered_addAll (r := Reader.initial) ordered_empty before
  -- the heading leads back to the section without a name, where a reader begins
  have hheading : (Reader.initial.addAll before).add (Line.read ['[', ']']) =
      Reader.initial.over (Reader.initial.addAll before).config := rfl
  -- what was read so far is then the base, and the rest is read over it
  rw [Reader.addAll_append, Reader.addAll_cons, hheading,
    Reader.addAll_over hordered ordered_empty]
  rfl

theorem lines_append (a b : String) : lines (a ++ "\n" ++ b) = lines a ++ lines b := by
  have htext : (a ++ "\n" ++ b).toList = a.toList ++ '\n' :: b.toList := by
    simp
  rw [lines, htext, List.splitOn_append_cons_self]
  rfl

theorem lines_heading (b : String) : lines ("[]\n" ++ b) = ['[', ']'] :: lines b := by
  have hfront : "[]\n" ++ b = "[]" ++ "\n" ++ b := rfl
  rw [hfront, lines_append]
  rfl

/-- A line break at the end of a text adds a blank line. -/
theorem read_lineBreak (a : String) : read (a ++ "\n") = read a := by
  have hlines : lines (a ++ "\n") = lines a ++ [[]] := by
    rw [← String.append_empty (s := a ++ "\n"), lines_append]
    rfl
  rw [read_eq, hlines, Reader.addAll_append]
  rfl

theorem read_append (a b : String) :
    read (a ++ "\n[]\n" ++ b) = (read a).merge (read b) := by
  have hlines : lines (a ++ "\n[]\n" ++ b) = lines a ++ ['[', ']'] :: lines b := by
    rw [← lines_heading, ← lines_append]
    congr 1
    simp only [String.append_assoc]
    rfl
  rw [read_eq, hlines, addAll_merge]
  rfl

/-- A text that ends with its last line goes on with the heading at once. -/
theorem read_append_of_ends {a : String} (hends : a = "" ∨ ∃ front, a = front ++ "\n")
    (b : String) : read (a ++ "[]\n" ++ b) = (read a).merge (read b) := by
  rcases hends with rfl | ⟨front, rfl⟩
  · rw [String.empty_append, read_eq, lines_heading]
    exact addAll_merge [] (lines b)
  · have htext : front ++ "\n" ++ "[]\n" ++ b = front ++ "\n[]\n" ++ b := by
      simp only [String.append_assoc]
      rfl
    rw [htext, read_append, read_lineBreak]

/-- Reading and merging agree.  A text, a line with an empty heading and another text, one behind
the other, are read as the second laid over the first.  Merging is associative, the empty
configuration is neutral on both sides, and laid over itself a configuration stays as it is; key by
key the overlay counts, and the base where it says nothing.  What a text comes to is its last
`defaults` outside of any section and, for each name, its last setting of the name in a section of
aliases, and nothing else in the text counts. -/
theorem reading_and_merging_agree :
    (∀ a b : String, read (a ++ "\n[]\n" ++ b) = (read a).merge (read b) ∧
      (a = "" ∨ (∃ front, a = front ++ "\n") →
        read (a ++ "[]\n" ++ b) = (read a).merge (read b))) ∧
    (∀ a b c : Config, a.Ordered → b.Ordered → c.Ordered →
      (a.merge b).merge c = a.merge (b.merge c) ∧
        empty.merge a = a ∧ a.merge empty = a ∧ a.merge a = a ∧
        (a.merge b).defaults = b.defaults.or a.defaults ∧
        ∀ name, (a.merge b).alias? name = (b.alias? name).or (a.alias? name)) ∧
    (empty.Ordered ∧ (∀ text, (read text).Ordered) ∧
      ∀ a b : Config, a.Ordered → b.Ordered → (a.merge b).Ordered) ∧
    (∀ text value, (read text).defaults = some value ↔
      Assigns (lines text) "" "defaults" value) ∧
    (∀ text name value, (read text).alias? name = some value ↔
      Assigns (lines text) "aliases" name value) ∧
    ∀ text other,
      (∀ value, Assigns (lines text) "" "defaults" value ↔
        Assigns (lines other) "" "defaults" value) →
      (∀ name value, Assigns (lines text) "aliases" name value ↔
        Assigns (lines other) "aliases" name value) →
      read text = read other := by
  refine ⟨?_, ?_, ⟨ordered_empty, ordered_read, fun a b ha _ => ha.merge b⟩, defaults_read_iff,
    alias?_read_iff, ?_⟩
  · intro a b
    exact ⟨read_append a b, fun hends => read_append_of_ends hends b⟩
  · intro a b c ha hb hc
    exact ⟨merge_assoc ha hb hc, empty_merge ha, merge_empty a, merge_self ha,
      defaults_merge a b, alias?_merge a hb⟩
  · intro text other hdefaults haliases
    -- an ordered configuration is what it can be asked for
    refine (ordered_read text).ext (ordered_read other) (Option.ext fun value => ?_)
      fun name => Option.ext fun value => ?_
    · rw [defaults_read_iff, defaults_read_iff, hdefaults]
    · rw [alias?_read_iff, alias?_read_iff, haliases]

/-- A text that leaves a section and enters it again, with a comment that looks like a setting. -/
def reenteringText : String :=
  "defaults = -q\n[aliases]\nx = [1]\n[ other ]\nx = 0\n[ aliases ]\n; x = 2\nx = a=b ; c\n[]" ++
    "\n"

/-- A text for an overlay: without a section an alias is none. -/
def overlayText : String := "x = 4\ndefaults = -v\n[ ]\ndefaults =\n[aliases]\ny = -a x"

/-- The last setting of an alias in its section counts up to the end of its line, the overlay only
where it sets a key in its section, and a line break behind the first text makes no difference. -/
theorem reading_and_merging_agree_reentering :
    read (reenteringText ++ "[]\n" ++ overlayText) =
        ⟨some "", [("x", "a=b ; c"), ("y", "-a x")]⟩ ∧
      ((read reenteringText).merge (read overlayText)).merge (read reenteringText) =
        (read reenteringText).merge ((read overlayText).merge (read reenteringText)) ∧
      Assigns (lines reenteringText) "aliases" "x" "a=b ; c" := by
  have hagree := reading_and_merging_agree
  rcases hagree with ⟨hread, hmerge, ⟨_, hordered, _⟩, _, halias, _⟩
  have hends : ∃ front, reenteringText = front ++ "\n" := ⟨_, rfl⟩
  have hlaws := hmerge (read reenteringText) (read overlayText) (read reenteringText)
    (hordered _) (hordered _) (hordered _)
  refine ⟨?_, hlaws.1, (halias _ _ _).1 (by decide +kernel)⟩
  rw [(hread reenteringText overlayText).2 (.inr hends)]
  decide +kernel

end Config
end RecordFlow
