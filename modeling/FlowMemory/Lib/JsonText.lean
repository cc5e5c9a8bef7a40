import Mathlib.Data.List.Sort
import FlowMemory.Lib.Hex
import FlowMemory.Lib.Text

/-! # Canonical JSON text

`Json` is the tree of JSON values with natural numbers; `render` is the compact text of a
value (no blanks, strings escaped as the JSON standard requires) and `normalizeValue` sorts
the members of every object by key.  `canonicalJson` is the text of the sorted value.

* **The text determines the value.**  Every rendering is self-delimiting: read in front of a
  continuation that does not start with a digit it can be cut off in one way only
  (`render_append_inj`).  Hence `render` is injective (`render_inj`).
* **Sorting loses only the order of members.**  Two objects that list the same distinct keys
  in the same order have equal sorted forms only if their members agree
  (`normalizeValue_obj_inj`), so records written with a fixed list of field names are
  identified by their canonical text. -/

namespace FlowMemory

/-- JSON values. -/
inductive Json where
  | null
  | bool (b : Bool)
  | num (n : ℕ)
  | str (s : String)
  | arr (elems : List Json)
  | obj (members : List (String × Json))

namespace Json

/-! ### Text -/

/-- The text of one character inside a string literal. -/
def escapeChar (c : Char) : List Char :=
  if c = '"' then ['\\', '"']
  else if c = '\\' then ['\\', '\\']
  else if c = '\x08' then ['\\', 'b']
  else if c = '\t' then ['\\', 't']
  else if c = '\n' then ['\\', 'n']
  else if c = '\x0c' then ['\\', 'f']
  else if c = '\r' then ['\\', 'r']
  else if c.toNat < 32 then
    ['\\', 'u', '0', '0', Nat.digitChar (c.toNat / 16), Nat.digitChar (c.toNat % 16)]
  else [c]

/-- The characters of a string literal, closing quote included. -/
def renderChars : List Char → List Char
  | [] => ['"']
  | c :: cs => escapeChar c ++ renderChars cs

/-- A string literal. -/
def renderString (s : String) : List Char := '"' :: renderChars (chars s)

mutual

/-- The compact text of a value. -/
def render : Json → List Char
  | .null => ['n', 'u', 'l', 'l']
  | .bool true => ['t', 'r', 'u', 'e']
  | .bool false => ['f', 'a', 'l', 's', 'e']
  | .num n => Nat.toDigits 10 n
  | .str s => renderString s
  | .arr [] => ['[', ']']
  | .arr (x :: xs) => '[' :: (render x ++ renderElems xs)
  | .obj [] => ['{', '}']
  | .obj ((k, v) :: ms) => '{' :: (renderString k ++ ':' :: (render v ++ renderMembers ms))

/-- The elements after the first one, with the closing bracket. -/
def renderElems : List Json → List Char
  | [] => [']']
  | x :: xs => ',' :: (render x ++ renderElems xs)

/-- The members after the first one, with the closing brace. -/
def renderMembers : List (String × Json) → List Char
  | [] => ['}']
  | (k, v) :: ms => ',' :: (renderString k ++ ':' :: (render v ++ renderMembers ms))

end

/-! ### Sorted members -/

/-- Keys are compared by their text. -/
def keyLe (a b : String × Json) : Prop := a.1 ≤ b.1

instance : DecidableRel keyLe := fun a b => inferInstanceAs (Decidable (a.1 ≤ b.1))

mutual

/-- Sort the members of every object by key. -/
def normalizeValue : Json → Json
  | .arr xs => .arr (normalizeElems xs)
  | .obj ms => .obj ((normalizeMembers ms).insertionSort keyLe)
  | v => v

def normalizeElems : List Json → List Json
  | [] => []
  | x :: xs => normalizeValue x :: normalizeElems xs

def normalizeMembers : List (String × Json) → List (String × Json)
  | [] => []
  | (k, v) :: ms => (k, normalizeValue v) :: normalizeMembers ms

end

/-- The canonical text of a value. -/
def canonicalJson (v : Json) : List Char := render (normalizeValue v)

/-! ### Cutting a rendering off a text -/

/-- Read one possibly escaped character. -/
def readChar : List Char → Option (Char × List Char)
  | '\\' :: 'b' :: r => some ('\x08', r)
  | '\\' :: 't' :: r => some ('\t', r)
  | '\\' :: 'n' :: r => some ('\n', r)
  | '\\' :: 'f' :: r => some ('\x0c', r)
  | '\\' :: 'r' :: r => some ('\r', r)
  | '\\' :: 'u' :: _ :: _ :: a :: b :: r =>
    some (Char.ofNat (16 * (hexValue a).getD 0 + (hexValue b).getD 0), r)
  | '\\' :: c :: r => some (c, r)
  | c :: r => some (c, r)
  | [] => none

theorem readChar_escapeChar (c : Char) (r : List Char) :
    readChar (escapeChar c ++ r) = some (c, r) := by
  unfold escapeChar
  split_ifs with h₁ h₂ h₃ h₄ h₅ h₆ h₇ h₈
  · subst h₁; rfl
  · subst h₂; rfl
  · subst h₃; rfl
  · subst h₄; rfl
  · subst h₅; rfl
  · subst h₆; rfl
  · subst h₇; rfl
  · simp only [List.cons_append, List.nil_append, readChar,
      hexValue_digitChar (show c.toNat / 16 < 16 by omega),
      hexValue_digitChar (show c.toNat % 16 < 16 by omega), Option.getD_some]
    rw [show 16 * (c.toNat / 16) + c.toNat % 16 = c.toNat by omega, Char.ofNat_toNat]
  · simp [readChar, h₂]

variable {c : Char}

/-- The escaped forms of two characters never start in the same way. -/
theorem escapeChar_append_inj {d : Char} {x y : List Char}
    (h : escapeChar c ++ x = escapeChar d ++ y) : c = d ∧ x = y := by
  have hc := readChar_escapeChar c x
  rw [h, readChar_escapeChar d y] at hc
  simpa [eq_comm] using hc

theorem escapeChar_head_ne_quote (c : Char) (x y : List Char) : escapeChar c ++ x ≠ '"' :: y := by
  unfold escapeChar
  split_ifs with h₁ <;> simp [h₁]

theorem renderChars_append_inj {cs ds x y : List Char}
    (h : renderChars cs ++ x = renderChars ds ++ y) : cs = ds ∧ x = y := by
  induction cs generalizing ds with
  | nil =>
    cases ds with
    | nil => simpa [renderChars] using h
    | cons d ds =>
      simp only [renderChars, List.cons_append, List.nil_append, List.append_assoc] at h
      exact absurd h.symm (escapeChar_head_ne_quote d _ _)
  | cons c cs ih =>
    cases ds with
    | nil =>
      simp only [renderChars, List.cons_append, List.nil_append, List.append_assoc] at h
      exact absurd h (escapeChar_head_ne_quote c _ _)
    | cons d ds =>
      simp only [renderChars, List.append_assoc] at h
      obtain ⟨rfl, htail⟩ := escapeChar_append_inj h
      obtain ⟨rfl, hrest⟩ := ih htail
      exact ⟨rfl, hrest⟩

theorem renderString_append_inj {s t : String} {x y : List Char}
    (h : renderString s ++ x = renderString t ++ y) : s = t ∧ x = y := by
  simp only [renderString, chars_eq, List.cons_append, List.cons.injEq, true_and] at h
  obtain ⟨hs, h⟩ := renderChars_append_inj h
  exact ⟨String.toList_inj.mp hs, h⟩

/-- The continuation does not start with a digit. -/
def Stops (r : List Char) : Prop := ∀ c ∈ r.head?, c.isDigit = false

theorem stops_cons {r : List Char} (h : c.isDigit = false) : Stops (c :: r) := by
  intro d hd
  cases hd
  exact h

theorem stops_renderElems (xs : List Json) (r : List Char) : Stops (renderElems xs ++ r) := by
  cases xs with
  | nil | cons x xs => exact stops_cons (by decide)

theorem stops_renderMembers (ms : List (String × Json)) (r : List Char) :
    Stops (renderMembers ms ++ r) := by
  cases ms with
  | nil | cons m ms => exact stops_cons (by decide)

theorem digits_append_inj : ∀ {ds es x y : List Char}, (∀ c ∈ ds, c.isDigit = true) →
    (∀ c ∈ es, c.isDigit = true) → Stops x → Stops y → ds ++ x = es ++ y → ds = es ∧ x = y
  | [], [], _, _, _, _, _, _, h => ⟨rfl, h⟩
  | [], e :: es, x, y, _, he, hx, _, h => by
      have := hx e (by rw [show x = e :: (es ++ y) from h]; rfl)
      rw [he e List.mem_cons_self] at this
      cases this
  | d :: ds, [], x, y, hd, _, _, hy, h => by
      have := hy d (by rw [show y = d :: (ds ++ x) from h.symm]; rfl)
      rw [hd d List.mem_cons_self] at this
      cases this
  | d :: ds, e :: es, x, y, hd, he, hx, hy, h => by
      rw [List.cons_append, List.cons_append, List.cons.injEq] at h
      obtain ⟨rfl, h⟩ := h
      obtain ⟨rfl, hrest⟩ := digits_append_inj (fun c hc => hd c (List.mem_cons_of_mem _ hc))
        (fun c hc => he c (List.mem_cons_of_mem _ hc)) hx hy h
      exact ⟨rfl, hrest⟩

theorem isDigit_of_mem_toDigits {n : ℕ} (h : c ∈ Nat.toDigits 10 n) :
    c.isDigit = true :=
  Nat.isDigit_of_mem_toDigits (by decide) (by decide) h

/-- The constructor of the values whose text starts with a character. -/
def leadIdx (c : Char) : ℕ :=
  if c = 'n' then 0
  else if c = 't' ∨ c = 'f' then 1
  else if c.isDigit then 2
  else if c = '"' then 3
  else if c = '[' then 4
  else if c = '{' then 5
  else 6

/-- A text starts like values of one kind only. -/
theorem leadIdx_render {v : Json} {x y : List Char} (h : render v ++ x = c :: y) :
    leadIdx c = v.ctorIdx := by
  cases v with
  | num n =>
    cases hd : Nat.toDigits 10 n with
    | nil => exact absurd hd Nat.toDigits_ne_nil
    | cons d ds =>
      rw [render, hd, List.cons_append, List.cons.injEq] at h
      have hdigit := isDigit_of_mem_toDigits (n := n) (c := d) (by rw [hd]; exact List.mem_cons_self)
      rw [h.1] at hdigit
      unfold leadIdx
      split_ifs with h₁ h₂
      · subst h₁
        cases hdigit
      · rcases h₂ with rfl | rfl <;> cases hdigit
      · rfl
  | null | str s => cases h; rfl
  | bool b => cases b <;> cases h <;> rfl
  | arr xs | obj xs => cases xs <;> cases h <;> rfl

theorem render_append_ne_bracket (v : Json) (x y : List Char) : render v ++ x ≠ ']' :: y := by
  intro h
  cases v <;> cases leadIdx_render h

/-- Values with texts that start alike are of one kind. -/
theorem ctorIdx_eq {v w : Json} {x y : List Char} (h : render v ++ x = render w ++ y) :
    v.ctorIdx = w.ctorIdx := by
  have hne : render w ++ y ≠ [] := by
    cases w with
    | num n => simp [render, Nat.toDigits_ne_nil]
    | null | str s => exact List.cons_ne_nil _ _
    | bool b => cases b <;> exact List.cons_ne_nil _ _
    | arr xs | obj xs => cases xs <;> exact List.cons_ne_nil _ _
  obtain ⟨c, rest, hw⟩ := List.exists_cons_of_ne_nil hne
  exact (leadIdx_render (h.trans hw)).symm.trans (leadIdx_render hw)

mutual

/-- A rendering can be cut off the front of a text in one way only. -/
theorem render_append_inj : ∀ (v w : Json) {x y : List Char}, Stops x → Stops y →
    render v ++ x = render w ++ y → v = w ∧ x = y
  | .num n, w, x, y, hx, hy, h => by
      cases w with
      | num n' =>
        simp only [render] at h
        obtain ⟨hd, hxy⟩ := digits_append_inj (fun c hc => isDigit_of_mem_toDigits hc)
          (fun c hc => isDigit_of_mem_toDigits hc) hx hy h
        have hn := Nat.ofDigitChars_ten_toDigits (n := n)
        rw [hd, Nat.ofDigitChars_ten_toDigits] at hn
        exact ⟨by rw [hn], hxy⟩
      | _ => cases ctorIdx_eq h
  | .null, w, x, y, _, _, h => by
      cases w with
      | null => simpa [render] using h
      | _ => cases ctorIdx_eq h
  | .bool b, w, x, y, _, _, h => by
      cases w with
      | bool b' => cases b <;> cases b' <;> simp [render] at h ⊢ <;> exact h
      | _ => cases ctorIdx_eq h
  | .str s, w, x, y, _, _, h => by
      cases w with
      | str t =>
        simp only [render] at h
        obtain ⟨rfl, hxy⟩ := renderString_append_inj h
        exact ⟨rfl, hxy⟩
      | _ => cases ctorIdx_eq h
  | .arr [], w, x, y, _, _, h => by
      cases w with
      | arr ys =>
        cases ys with
        | nil => simpa [render] using h
        | cons z ys =>
          simp only [render, List.cons_append, List.cons.injEq, true_and, List.nil_append,
            List.append_assoc] at h
          exact absurd h.symm (render_append_ne_bracket z _ _)
      | _ => cases ctorIdx_eq h
  | .arr (v :: vs), w, x, y, hx, hy, h => by
      cases w with
      | arr ys =>
        cases ys with
        | nil =>
          simp only [render, List.cons_append, List.cons.injEq, true_and, List.nil_append,
            List.append_assoc] at h
          exact absurd h (render_append_ne_bracket v _ _)
        | cons z ys =>
          simp only [render, List.cons_append, List.cons.injEq, true_and,
            List.append_assoc] at h
          obtain ⟨rfl, htail⟩ := render_append_inj v z (stops_renderElems vs x)
            (stops_renderElems ys y) h
          obtain ⟨rfl, hxy⟩ := renderElems_append_inj vs ys htail
          exact ⟨rfl, hxy⟩
      | _ => cases ctorIdx_eq h
  | .obj [], w, x, y, _, _, h => by
      cases w with
      | obj ms =>
        rcases ms with _ | ⟨⟨k, v⟩, ms⟩
        · simpa [render] using h
        · simp [render, renderString] at h
      | _ => cases ctorIdx_eq h
  | .obj ((k, v) :: ms), w, x, y, hx, hy, h => by
      cases w with
      | obj ms' =>
        rcases ms' with _ | ⟨⟨k', v'⟩, ms'⟩
        · simp [render, renderString] at h
        · simp only [render, List.cons_append, List.cons.injEq, true_and,
            List.append_assoc] at h
          obtain ⟨rfl, hcolon⟩ := renderString_append_inj h
          simp only [List.cons.injEq, true_and] at hcolon
          obtain ⟨rfl, htail⟩ := render_append_inj v v' (stops_renderMembers ms x)
            (stops_renderMembers ms' y) hcolon
          obtain ⟨rfl, hxy⟩ := renderMembers_append_inj ms ms' htail
          exact ⟨rfl, hxy⟩
      | _ => cases ctorIdx_eq h

theorem renderElems_append_inj : ∀ (vs ws : List Json) {x y : List Char},
    renderElems vs ++ x = renderElems ws ++ y → vs = ws ∧ x = y
  | [], [], x, y, h => by simpa [renderElems] using h
  | [], w :: ws, x, y, h => by simp [renderElems] at h
  | v :: vs, [], x, y, h => by simp [renderElems] at h
  | v :: vs, w :: ws, x, y, h => by
      simp only [renderElems, List.cons_append, List.cons.injEq, true_and, List.append_assoc] at h
      obtain ⟨rfl, htail⟩ := render_append_inj v w (stops_renderElems vs x)
        (stops_renderElems ws y) h
      obtain ⟨rfl, hxy⟩ := renderElems_append_inj vs ws htail
      exact ⟨rfl, hxy⟩

theorem renderMembers_append_inj : ∀ (vs ws : List (String × Json)) {x y : List Char},
    renderMembers vs ++ x = renderMembers ws ++ y → vs = ws ∧ x = y
  | [], [], x, y, h => by simpa [renderMembers] using h
  | [], (k', w) :: ws, x, y, h => by simp [renderMembers] at h
  | (k, v) :: vs, [], x, y, h => by simp [renderMembers] at h
  | (k, v) :: vs, (k', w) :: ws, x, y, h => by
      simp only [renderMembers, List.cons_append, List.cons.injEq, true_and,
        List.append_assoc] at h
      obtain ⟨rfl, hcolon⟩ := renderString_append_inj h
      simp only [List.cons.injEq, true_and] at hcolon
      obtain ⟨rfl, htail⟩ := render_append_inj v w (stops_renderMembers vs x)
        (stops_renderMembers ws y) hcolon
      obtain ⟨rfl, hxy⟩ := renderMembers_append_inj vs ws htail
      exact ⟨rfl, hxy⟩

end

/-- The text of a value determines the value. -/
theorem render_inj {v w : Json} : render v = render w ↔ v = w := by
  constructor
  · intro h
    have hnil : Stops ([] : List Char) := by
      intro c hc
      cases hc
    exact (render_append_inj v w hnil hnil (by rw [h])).1
  · rintro rfl
    rfl

/-! ### Records with fixed field names -/

theorem map_fst_normalizeMembers (ms : List (String × Json)) :
    (normalizeMembers ms).map Prod.fst = ms.map Prod.fst := by
  induction ms with
  | nil => rfl
  | cons m ms ih =>
    obtain ⟨k, v⟩ := m
    simp [normalizeMembers, ih]

/-- Lists of members with the same distinct keys in the same order are equal as soon as one
is a rearrangement of the other. -/
theorem eq_of_perm_of_keys {κ α : Type} {ms ns : List (κ × α)} (hp : ms.Perm ns)
    (hk : ms.map Prod.fst = ns.map Prod.fst) (hnd : (ms.map Prod.fst).Nodup) : ms = ns := by
  induction ms generalizing ns with
  | nil => exact (List.nil_perm.mp hp).symm
  | cons m ms ih =>
    cases ns with
    | nil => exact absurd hp.symm (by simp)
    | cons n ns =>
      simp only [List.map_cons, List.cons.injEq] at hk
      rw [List.map_cons, List.nodup_cons] at hnd
      have hmn : m = n := by
        rcases List.mem_cons.mp (hp.mem_iff.mp List.mem_cons_self) with h | h
        · exact h
        · -- a second member with the key of `m` would repeat that key
          have : m.1 ∈ ns.map Prod.fst := List.mem_map_of_mem h
          rw [← hk.2] at this
          exact absurd this hnd.1
      subst hmn
      rw [ih ((List.perm_cons m).mp hp) hk.2 hnd.2]

variable {ms ns : List (String × Json)}

/-- Objects with the same normal form have the same members, in some order. -/
theorem normalizeValue_obj_perm (h : normalizeValue (.obj ms) = normalizeValue (.obj ns)) :
    (normalizeMembers ms).Perm (normalizeMembers ns) := by
  simp only [normalizeValue, Json.obj.injEq] at h
  have hms := List.perm_insertionSort keyLe (normalizeMembers ms)
  rw [h] at hms
  exact hms.symm.trans (List.perm_insertionSort keyLe (normalizeMembers ns))

theorem normalizeValue_obj_inj
    (hk : ms.map Prod.fst = ns.map Prod.fst) (hnd : (ms.map Prod.fst).Nodup) :
    normalizeValue (.obj ms) = normalizeValue (.obj ns) ↔
      normalizeMembers ms = normalizeMembers ns := by
  constructor
  · intro h
    apply eq_of_perm_of_keys (normalizeValue_obj_perm h)
    · rw [map_fst_normalizeMembers, map_fst_normalizeMembers, hk]
    · rw [map_fst_normalizeMembers]
      exact hnd
  · intro h
    rw [normalizeValue, normalizeValue, h]

theorem canonicalJson_obj_inj
    (hk : ms.map Prod.fst = ns.map Prod.fst) (hnd : (ms.map Prod.fst).Nodup) :
    canonicalJson (.obj ms) = canonicalJson (.obj ns) ↔
      normalizeMembers ms = normalizeMembers ns := by
  rw [canonicalJson, canonicalJson, render_inj, normalizeValue_obj_inj hk hnd]

theorem normalizeElems_inj {α : Type} {f : α → Json} {as bs : List α}
    (hf : ∀ a b, normalizeValue (f a) = normalizeValue (f b) → a = b)
    (h : normalizeElems (as.map f) = normalizeElems (bs.map f)) : as = bs := by
  induction as generalizing bs with
  | nil =>
    cases bs with
    | nil => rfl
    | cons b bs => simp [normalizeElems] at h
  | cons a as ih =>
    cases bs with
    | nil => simp [normalizeElems] at h
    | cons b bs =>
      simp only [List.map_cons, normalizeElems, List.cons.injEq] at h
      rw [hf a b h.1, ih h.2]

end Json

end FlowMemory
