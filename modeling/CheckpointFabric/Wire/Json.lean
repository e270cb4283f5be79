import Mathlib.Data.List.Basic
import Mathlib.Data.Nat.Notation

/-!
# Documents as text

The text of a JSON value without white space, and what a reader that comes from the left knows at
each place in it: how many brackets are open, and whether it is in a string.

A document is where the brackets are closed for the first time, so no document is the end of another
one that starts with the same kind of key.

## Main definitions

* `Json`, `Json.text` — the values and their texts
* `Point`, `scan` — what a reader knows at a place in a text

## Main results

* `Json.scan_text` — a value leaves the reader at the depth where it found it
* `Json.eq_nil_of_text_object_eq` — no object ends in another one
-/

set_option autoImplicit false

namespace Wire

/-- What the text of a number consists of. -/
def isNumberChar (c : Char) : Bool := c.isDigit || [ '+', '-', '.', 'e', 'E'].contains c

/-- The text of a number. -/
structure NumberText where
  chars : List Char
  plain : ∀ c ∈ chars, isNumberChar c

inductive Json
  | null
  | bool (b : Bool)
  | number (n : NumberText)
  | string (s : String)
  | array (items : List Json)
  | object (members : List (String × Json))

/-- A character inside a string. -/
def escape (c : Char) : List Char :=
  if c = '"' then ['\\', '"']
  else if c = '\\' then ['\\', '\\']
  else if c = '\n' then ['\\', 'n']
  else if c = '\r' then ['\\', 'r']
  else if c = '\t' then ['\\', 't']
  else if c.toNat = 8 then ['\\', 'b']
  else if c.toNat = 12 then ['\\', 'f']
  else if c.toNat < 32 then
    ['\\', 'u', '0', '0', (c.toNat / 16).digitChar, (c.toNat % 16).digitChar]
  else [c]

/-- The text of a string. -/
def quoted (s : String) : List Char := '"' :: s.toList.flatMap escape ++ ['"']

/-- What stands before an item, which is a comma unless it is the first one. -/
def separator (first : Bool) : List Char := if first then [] else [',']

namespace Json

mutual

/-- The text of a value, without white space. -/
def text : Json → List Char
  | null => ['n', 'u', 'l', 'l']
  | bool true => ['t', 'r', 'u', 'e']
  | bool false => ['f', 'a', 'l', 's', 'e']
  | number n => n.chars
  | string s => quoted s
  | array items => '[' :: itemsText true items ++ [']']
  | object members => '{' :: membersText true members ++ ['}']

def itemsText (first : Bool) : List Json → List Char
  | [] => []
  | item :: items => separator first ++ (item.text ++ itemsText false items)

def membersText (first : Bool) : List (String × Json) → List Char
  | [] => []
  | (key, value) :: members =>
    separator first ++ (quoted key ++ ':' :: (value.text ++ membersText false members))

end

end Json

namespace Json

variable {first : Bool} {members : List (String × Json)} {key : String} {value value' : Json}

/-- Behind other members there is a comma. -/
theorem membersText_append (rest : List (String × Json)) :
    membersText first (members ++ rest) =
      membersText first members ++ membersText (first && members.isEmpty) rest := by
  induction members generalizing first with
  | nil => simp [membersText]
  | cons member members ih =>
    obtain ⟨key, value⟩ := member
    rw [List.cons_append, membersText, membersText, ih]
    simp [List.append_assoc]

/-- The text of an object determines the text of a member between others. -/
theorem text_eq_of_text_object_eq (members rest : List (String × Json))
    (h : (object (members ++ (key, value) :: rest)).text =
      (object (members ++ (key, value') :: rest)).text) : value.text = value'.text := by
  have hmembers := List.append_cancel_right (List.cons.inj h).2
  rw [membersText_append, membersText_append] at hmembers
  have hmember := List.append_cancel_left hmembers
  rw [membersText, membersText] at hmember
  have hvalue := List.append_cancel_left (List.append_cancel_left hmember)
  exact List.append_cancel_right (List.cons.inj hvalue).2

end Json

/-- Where a reader is: outside of the strings, right behind one, inside one, or behind a backslash in
it. -/
inductive Phase
  | outside
  | closed
  | inside
  | escaped
  deriving DecidableEq, Repr

/-- What a reader knows: where it is, and how many brackets are open. -/
structure Point where
  phase : Phase
  depth : ℕ
  deriving DecidableEq, Repr

namespace Point

/-- A bracket is closed. -/
def leave (p : Point) : Option Point :=
  if 0 < p.depth then some ⟨.outside, p.depth - 1⟩ else none

/-- Read a character. A string is followed by a comma, a colon or a closing bracket. -/
def step (p : Point) (c : Char) : Option Point :=
  match p.phase with
  | .outside =>
    if c = '"' then some ⟨.inside, p.depth⟩
    else if c = '[' ∨ c = '{' then some ⟨.outside, p.depth + 1⟩
    else if c = ']' ∨ c = '}' then p.leave
    else some p
  | .closed =>
    if c = ']' ∨ c = '}' then p.leave
    else if c = ',' ∨ c = ':' then some ⟨.outside, p.depth⟩
    else none
  | .inside =>
    if c = '"' then some ⟨.closed, p.depth⟩
    else if c = '\\' then some ⟨.escaped, p.depth⟩
    else some p
  | .escaped =>
    if [ '"', '\\', '/', 'b', 'f', 'n', 'r', 't', 'u'].contains c then some ⟨.inside, p.depth⟩
    else none

/-- Read a text from the left. -/
def scan (p : Point) : List Char → Option Point
  | [] => some p
  | c :: cs => (p.step c).bind fun p' => p'.scan cs

/-- The same place in a text that is inside more brackets. -/
def deeper (p : Point) (k : ℕ) : Point := ⟨p.phase, p.depth + k⟩

section Reading

variable {p p' : Point} {c : Char} {cs : List Char} {k : ℕ}

theorem scan_append (cs' : List Char) :
    p.scan (cs ++ cs') = (p.scan cs).bind fun p' => p'.scan cs' := by
  induction cs generalizing p with
  | nil => rfl
  | cons c cs ih =>
    rw [List.cons_append, scan, scan, Option.bind_assoc]
    exact congrArg _ (funext fun _ => ih)

theorem scan_append_of_eq {cs' : List Char} (h : p.scan cs = some p') :
    p.scan (cs ++ cs') = p'.scan cs' := by
  rw [scan_append, h, Option.bind_some]

theorem scan_cons_of_eq (h : p.step c = some p') : p.scan (c :: cs) = p'.scan cs := by
  rw [scan, h, Option.bind_some]

theorem leave_deeper (h : p.leave = some p') : (p.deeper k).leave = some (p'.deeper k) := by
  simp only [leave, Option.ite_none_right_eq_some, Option.some.injEq] at h
  obtain ⟨hpos, rfl⟩ := h
  rw [leave, if_pos (show 0 < (p.deeper k).depth from Nat.add_pos_left hpos k)]
  simp only [deeper, Option.some.injEq, Point.mk.injEq, true_and]
  omega

/-- A reader goes the same way inside more brackets. -/
theorem step_deeper (h : p.step c = some p') : (p.deeper k).step c = some (p'.deeper k) := by
  obtain ⟨phase, depth⟩ := p
  cases phase with
  | outside =>
    simp only [step, deeper] at h ⊢
    split_ifs at h ⊢
    · cases h
      rfl
    · cases h
      simp [Nat.add_right_comm]
    · exact leave_deeper h
    · cases h
      rfl
  | closed =>
    simp only [step, deeper] at h ⊢
    split_ifs at h ⊢
    · exact leave_deeper h
    · cases h
      rfl
  | inside =>
    simp only [step, deeper] at h ⊢
    split_ifs at h ⊢ <;> cases h <;> rfl
  | escaped =>
    simp only [step, deeper] at h ⊢
    split_ifs at h ⊢
    cases h
    rfl

theorem scan_deeper (h : p.scan cs = some p') : (p.deeper k).scan cs = some (p'.deeper k) := by
  induction cs generalizing p with
  | nil =>
    cases h
    rfl
  | cons c cs ih =>
    obtain ⟨q, hstep, hscan⟩ := Option.bind_eq_some_iff.1 h
    rw [scan_cons_of_eq (step_deeper hstep)]
    exact ih hscan

end Reading

/-- A value has just ended, or there is none yet. -/
def Between (p : Point) : Prop := p.phase = .outside ∨ p.phase = .closed

section Between

variable {p : Point}

theorem Between.step_separator (h : p.Between) {c : Char} (hc : c = ',' ∨ c = ':') :
    p.step c = some ⟨.outside, p.depth⟩ := by
  obtain ⟨phase, depth⟩ := p
  rcases h with h | h <;> cases h <;> rcases hc with rfl | rfl <;> rfl

theorem Between.step_close (h : p.Between) {c : Char} (hc : c = ']' ∨ c = '}') :
    p.step c = p.leave := by
  obtain ⟨phase, depth⟩ := p
  rcases h with h | h <;> cases h <;> rcases hc with rfl | rfl <;> rfl

end Between

end Point

open Point

section Strings

variable {c : Char} {depth : ℕ}

theorem step_inside (hquote : c ≠ '"') (hslash : c ≠ '\\') :
    step ⟨.inside, depth⟩ c = some ⟨.inside, depth⟩ := by
  simp [step, hquote, hslash]

theorem scan_digit {d : ℕ} {cs : List Char} (h : d < 16) :
    scan ⟨.inside, depth⟩ (d.digitChar :: cs) = scan ⟨.inside, depth⟩ cs := by
  have hdigit : ∀ d < 16, d.digitChar ≠ '"' ∧ d.digitChar ≠ '\\' := by decide
  exact scan_cons_of_eq (step_inside (hdigit d h).1 (hdigit d h).2)

/-- A reader does not leave a string inside a character. -/
theorem scan_escape : scan ⟨.inside, depth⟩ (escape c) = some ⟨.inside, depth⟩ := by
  unfold escape
  split_ifs with hquote hslash _ _ _ _ _ hcontrol
  iterate 7 rfl
  · have hhigh : c.toNat / 16 < 16 := by omega
    have hlow : c.toNat % 16 < 16 := Nat.mod_lt _ (by decide)
    change scan ⟨.inside, depth⟩ ((c.toNat / 16).digitChar :: [(c.toNat % 16).digitChar]) = _
    rw [scan_digit hhigh, scan_digit hlow]
    rfl
  · exact scan_cons_of_eq (step_inside hquote hslash)

theorem scan_quoted (s : String) : scan ⟨.outside, depth⟩ (quoted s) = some ⟨.closed, depth⟩ := by
  have hinside (cs : List Char) :
      scan ⟨.inside, depth⟩ (cs.flatMap escape) = some ⟨.inside, depth⟩ := by
    induction cs with
    | nil => rfl
    | cons c cs ih => rw [List.flatMap_cons, scan_append_of_eq scan_escape, ih]
  change scan ⟨.inside, depth⟩ (s.toList.flatMap escape ++ ['"']) = _
  rw [scan_append_of_eq (hinside _)]
  rfl

theorem scan_number (n : NumberText) :
    scan ⟨.outside, depth⟩ n.chars = some ⟨.outside, depth⟩ := by
  have hplain (c : Char) (hc : isNumberChar c) :
      step ⟨.outside, depth⟩ c = some ⟨.outside, depth⟩ := by
    have hother : ([ '"', '[', '{', ']', '}'].all fun b => !isNumberChar b) = true := by decide
    have hne : ∀ b ∈ [ '"', '[', '{', ']', '}'], c ≠ b := by
      rintro b hb rfl
      simpa [hc] using List.all_eq_true.1 hother c hb
    simp only [List.forall_mem_cons] at hne
    simp [step, hne]
  obtain ⟨chars, hchars⟩ := n
  induction chars with
  | nil => rfl
  | cons c cs ih =>
    rw [List.forall_mem_cons] at hchars
    rw [scan_cons_of_eq (hplain c hchars.1)]
    exact ih hchars.2

end Strings

namespace Json

/-- A text that leads from the place between two values to such a place, at the same depth. -/
def Keeps (cs : List Char) (p : Point) : Prop :=
  ∃ p' : Point, p'.Between ∧ p'.depth = p.depth ∧ p.scan cs = some p'

/-- A value in brackets. -/
theorem keeps_brackets {cs : List Char} {opening closing : Char} {depth : ℕ}
    (hopening : opening = '[' ∨ opening = '{') (hclosing : closing = ']' ∨ closing = '}')
    (h : Keeps cs ⟨.outside, depth + 1⟩) : Keeps (opening :: cs ++ [closing]) ⟨.outside, depth⟩ := by
  obtain ⟨p, hbetween, hdepth, hscan⟩ := h
  have hopen : step ⟨.outside, depth⟩ opening = some ⟨.outside, depth + 1⟩ := by
    rcases hopening with rfl | rfl <;> rfl
  refine ⟨⟨.outside, depth⟩, .inl rfl, rfl, ?_⟩
  rw [List.cons_append, scan_cons_of_eq hopen, scan_append_of_eq hscan, scan,
    hbetween.step_close hclosing, leave, if_pos (by rw [hdepth]; exact Nat.succ_pos depth), hdepth]
  rfl

/-- What stands before an item is read to the place where the item starts. -/
theorem scan_separator {p : Point} {first : Bool} (h : p.Between)
    (hfirst : first = true → p.phase = .outside) :
    p.scan (separator first) = some ⟨.outside, p.depth⟩ := by
  obtain ⟨phase, depth⟩ := p
  cases first with
  | true =>
    obtain rfl : phase = .outside := hfirst rfl
    rfl
  | false => exact scan_cons_of_eq (h.step_separator (.inl rfl))

mutual

/-- A value leaves the reader at the depth where it found it. -/
theorem scan_text (depth : ℕ) : ∀ j : Json, Keeps j.text ⟨.outside, depth⟩
  | .null => ⟨_, .inl rfl, rfl, rfl⟩
  | .bool true => ⟨_, .inl rfl, rfl, rfl⟩
  | .bool false => ⟨_, .inl rfl, rfl, rfl⟩
  | .number n => ⟨_, .inl rfl, rfl, scan_number n⟩
  | .string s => ⟨⟨.closed, depth⟩, .inr rfl, rfl, scan_quoted s⟩
  | .array items =>
    keeps_brackets (.inl rfl) (.inl rfl)
      (scan_itemsText true ⟨.outside, depth + 1⟩ (.inl rfl) (fun _ => rfl) items)
  | .object members =>
    keeps_brackets (.inr rfl) (.inr rfl)
      (scan_membersText true ⟨.outside, depth + 1⟩ (.inl rfl) (fun _ => rfl) members)

theorem scan_itemsText (first : Bool) (p : Point) (h : p.Between)
    (hfirst : first = true → p.phase = .outside) :
    ∀ items : List Json, Keeps (itemsText first items) p
  | [] => ⟨p, h, rfl, rfl⟩
  | item :: items => by
    obtain ⟨q, hq, hdepth, hitem⟩ := scan_text p.depth item
    obtain ⟨r, hr, hdepth', hitems⟩ := scan_itemsText false q hq Bool.noConfusion items
    refine ⟨r, hr, hdepth'.trans hdepth, ?_⟩
    rw [itemsText, scan_append_of_eq (scan_separator h hfirst), scan_append_of_eq hitem, hitems]

theorem scan_membersText (first : Bool) (p : Point) (h : p.Between)
    (hfirst : first = true → p.phase = .outside) :
    ∀ members : List (String × Json), Keeps (membersText first members) p
  | [] => ⟨p, h, rfl, rfl⟩
  | (key, value) :: members => by
    obtain ⟨q, hq, hdepth, hvalue⟩ := scan_text p.depth value
    obtain ⟨r, hr, hdepth', hmembers⟩ := scan_membersText false q hq Bool.noConfusion members
    have hcolon : step ⟨.closed, p.depth⟩ ':' = some ⟨.outside, p.depth⟩ := rfl
    refine ⟨r, hr, hdepth'.trans hdepth, ?_⟩
    rw [membersText, scan_append_of_eq (scan_separator h hfirst),
      scan_append_of_eq (scan_quoted key), scan_cons_of_eq hcolon, scan_append_of_eq hvalue, hmembers]

end

/-- The text starts with a key, and the key with a character that cannot stand behind a string. -/
def StartsWithKey (cs : List Char) : Prop :=
  ∃ c cs', cs = '{' :: '"' :: c :: cs' ∧ c ∉ [']', '}', ',', ':']

/-- A reader that is in a string, or right behind one, does not find a key there. -/
theorem scan_startsWithKey {p : Point} {cs : List Char} (hphase : p.phase ≠ .outside)
    (h : StartsWithKey cs) : p.scan cs = none := by
  obtain ⟨c, cs, rfl, hc⟩ := h
  obtain ⟨phase, depth⟩ := p
  cases phase with
  | outside => exact absurd rfl hphase
  | closed => rfl
  | escaped => rfl
  | inside =>
    have hbehind : step ⟨.closed, depth⟩ c = none := by
      simp only [List.mem_cons, List.not_mem_nil, or_false, not_or] at hc
      simp [step, hc]
    change scan ⟨.closed, depth⟩ (c :: cs) = none
    rw [scan, hbehind, Option.bind_none]

/-- No object ends in another one that starts with a key. -/
theorem eq_nil_of_text_object_eq {members members' : List (String × Json)} {front : List Char}
    (hkey : StartsWithKey (object members').text)
    (h : (object members).text = front ++ (object members').text) : front = [] := by
  cases front with
  | nil => rfl
  | cons c front =>
    obtain ⟨rfl, hrest⟩ : '{' = c ∧ membersText true members ++ ['}'] =
        front ++ (object members').text := List.cons.inj h
    have hinside : membersText true members = front ++ ('{' :: membersText true members') :=
      List.append_cancel_right (hrest.trans (List.append_assoc ..).symm)
    obtain ⟨_, -, -, hmembers⟩ := scan_membersText true ⟨.outside, 0⟩ (.inl rfl) (fun _ => rfl) members
    rw [hinside, scan_append] at hmembers
    obtain ⟨p, hfront, -⟩ := Option.bind_eq_some_iff.1 hmembers
    -- In the whole text, the front is read inside a bracket more.
    have hdeeper : scan ⟨.outside, 0⟩ ('{' :: front) = some (p.deeper 1) :=
      scan_deeper (p := ⟨.outside, 0⟩) hfront
    obtain ⟨q, -, hdepth, hwhole⟩ := scan_text 0 (object members)
    rw [h, scan_append_of_eq hdeeper] at hwhole
    obtain ⟨phase, depth⟩ := p
    by_cases hphase : phase = .outside
    · obtain ⟨q', -, hdepth', hrest'⟩ := scan_text (depth + 1) (object members')
      subst hphase
      obtain rfl : q' = q := Option.some.inj (hrest'.symm.trans hwhole)
      exact absurd (hdepth'.symm.trans hdepth) (Nat.succ_ne_zero depth)
    · rw [scan_startsWithKey hphase hkey] at hwhole
      cases hwhole

end Json

end Wire
