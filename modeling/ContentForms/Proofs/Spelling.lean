import ContentForms.Json.Printer
import ContentForms.Json.Token
import ContentForms.Proofs.Numerals

/-!
The tokens of printed JSON. Most texts end by themselves: after them the scanner stands between two
tokens, so what follows is scanned as if it stood alone. A number and a name end only with the
character behind them, and the scanner still holds the word when they have been read; `Holds` says
what a state stands for either way. In a printed value every word is followed by a comma, a line
break or nothing, and so the tokens of a value are those of its parts, one after another. Its
numbers come back as they are reread.
-/

namespace ContentForms.Json

inductive NumbersFit : Json → Prop
  | null : NumbersFit .null
  | bool (value : Bool) : NumbersFit (.bool value)
  | num {value : Number} (fits : value.Fits) : NumbersFit (.num value)
  | str (text : String) : NumbersFit (.str text)
  | arr {items : List Json} (each : ∀ item ∈ items, NumbersFit item) : NumbersFit (.arr items)
  | obj {members : List (String × Json)}
      (each : ∀ key value, (key, value) ∈ members → NumbersFit value) : NumbersFit (.obj members)

mutual
/-- What is read for a value that has been written. -/
def reread : Json → Json
  | .null => .null
  | .bool b => .bool b
  | .num n => .num n.reread
  | .str s => .str s
  | .arr items => .arr (rereadItems items)
  | .obj members => .obj (rereadMembers members)

def rereadItems : List Json → List Json
  | [] => []
  | x :: xs => reread x :: rereadItems xs

def rereadMembers : List (String × Json) → List (String × Json)
  | [] => []
  | (k, v) :: rest => (k, reread v) :: rereadMembers rest
end

mutual
def tokens : Json → List Token
  | .null => [.null]
  | .bool b => [.bool b]
  | .num n => [.num n]
  | .str s => [.str s]
  | .arr [] => [.openArray, .closeArray]
  | .arr (x :: xs) => .openArray :: (tokens x ++ tokensItems xs)
  | .obj [] => [.openObject, .closeObject]
  | .obj ((k, v) :: rest) =>
      .openObject :: .str k :: .colon :: (tokens v ++ tokensMembers rest)

def tokensItems : List Json → List Token
  | [] => [.closeArray]
  | x :: xs => .comma :: (tokens x ++ tokensItems xs)

def tokensMembers : List (String × Json) → List Token
  | [] => [.closeObject]
  | (k, v) :: rest => .comma :: .str k :: .colon :: (tokens v ++ tokensMembers rest)
end

namespace Token

/-- What a state of the scanner stands for: its tokens, and the one that its word is. -/
inductive Holds : Scan → List Token → Prop
  | between (done : List Token) : Holds ⟨done, .none⟩ done
  | word {read : List Char} {t : Token} (done : List Token) (h : ofWord? read.reverse = some t) :
      Holds ⟨done, .word read⟩ (t :: done)

/-- A character that no word has ends the word that is held. -/
theorem Holds.step {s : Scan} {done : List Token} (h : Holds s done) {c : Char}
    (hc : isWordChar c = false) : s.step c = Scan.step ⟨done, .none⟩ c := by
  cases h with
  | between => rfl
  | word done h =>
      simp only [Scan.step, hc, h, Option.bind_some]
      rfl

theorem Holds.finish {s : Scan} {done : List Token} (h : Holds s done) :
    s.finish = some done.reverse := by
  cases h with
  | between => rfl
  | word done h => simp [Scan.finish, h]

/-- A text with these tokens that ends by itself. -/
def Ends (cs : List Char) (ts : List Token) : Prop :=
  ∀ done, cs.foldlM Scan.step ⟨done, .none⟩ = some ⟨ts.reverse ++ done, .none⟩

def Spells (cs : List Char) (ts : List Token) : Prop :=
  ∀ done, ∃ s, cs.foldlM Scan.step ⟨done, .none⟩ = some s ∧ Holds s (ts.reverse ++ done)

variable {cs ds : List Char} {ts us : List Token}

theorem Ends.spells (h : Ends cs ts) : Spells cs ts :=
  fun done => ⟨_, h done, .between _⟩

theorem ends_nil : Ends [] [] :=
  fun _ => rfl

theorem Ends.append (h : Ends cs ts) (h' : Ends ds us) : Ends (cs ++ ds) (ts ++ us) := by
  intro done
  rw [List.foldlM_append, h done, List.reverse_append, List.append_assoc]
  exact h' _

/-- A text is ended by what follows it. -/
theorem Spells.append (h : Spells cs ts) (h' : Ends ds us)
    (hd : ∃ c rest, ds = c :: rest ∧ isWordChar c = false) : Ends (cs ++ ds) (ts ++ us) := by
  obtain ⟨c, rest, rfl, hc⟩ := hd
  intro done
  obtain ⟨s, hscan, hholds⟩ := h done
  rw [List.foldlM_append, hscan, List.reverse_append, List.append_assoc, ← h' _]
  show (s.step c >>= _) = (Scan.step _ c >>= _)
  rw [hholds.step hc]

theorem Spells.scan? (h : Spells cs ts) : Token.scan? cs = some ts := by
  obtain ⟨s, hscan, hholds⟩ := h []
  rw [Token.scan?, hscan, Option.bind_some, hholds.finish, List.append_nil, List.reverse_reverse]

/-! ### Blanks, words and strings -/

theorem ends_spaces (k : Nat) : Ends (List.replicate k ' ') [] := by
  induction k with
  | zero => exact ends_nil
  | succ k ih => exact ih

theorem ends_newline (level : Nat) : Ends (newline level) [] :=
  ends_spaces (2 * level)

theorem begin_of_isWordChar {c : Char} (h : isWordChar c) (done : List Token) :
    Scan.begin done c = some ⟨done, .word [c]⟩ := by
  have hspace : isSpace c = false := by
    rw [← Bool.not_eq_true]
    intro hspace
    simp only [isSpace, Bool.or_eq_true, decide_eq_true_eq, or_assoc] at hspace
    rcases hspace with rfl | rfl | rfl | rfl <;> revert h <;> decide
  have hquote : c ≠ '"' := by
    rintro rfl
    revert h
    decide
  simp [Scan.begin, hspace, hquote, h]

theorem foldlM_word (h : ∀ c ∈ cs, isWordChar c) (done : List Token) (read : List Char) :
    cs.foldlM Scan.step ⟨done, .word read⟩ = some ⟨done, .word (cs.reverse ++ read)⟩ := by
  induction cs generalizing read with
  | nil => rfl
  | cons c rest ih =>
      obtain ⟨hc, hrest⟩ := List.forall_mem_cons.mp h
      have hstep : Scan.step ⟨done, .word read⟩ c = some ⟨done, .word (c :: read)⟩ := by
        simp [Scan.step, hc]
      rw [List.foldlM_cons, hstep, List.reverse_cons, List.append_assoc]
      exact ih hrest _

theorem spells_word {t : Token} (hsome : cs ≠ []) (h : ∀ c ∈ cs, isWordChar c)
    (hword : ofWord? cs = some t) : Spells cs [t] := by
  intro done
  obtain ⟨c, rest, rfl⟩ := List.exists_cons_of_ne_nil hsome
  obtain ⟨hc, hrest⟩ := List.forall_mem_cons.mp h
  refine ⟨⟨done, .word (rest.reverse ++ [c])⟩, ?_, .word done (by simpa using hword)⟩
  rw [List.foldlM_cons]
  show (Scan.begin done c >>= _) = _
  rw [begin_of_isWordChar hc]
  exact foldlM_word hrest done [c]

/-- The text of a number is none of the three names. -/
theorem ofWord?_render {n : Number} (h : n.Fits) : ofWord? n.render = some (.num n.reread) := by
  obtain ⟨negative, c, rest, hrender, hc, -⟩ := n.render_eq
  have hname {w : List Char} (hw : w.head?.all fun d => d != '-' && !d.isDigit) :
      n.render ≠ w := by
    rintro rfl
    rw [hrender] at hw
    cases negative with
    | true => cases hw
    | false => simp [hc] at hw
  rw [ofWord?, if_neg (hname (by decide)), if_neg (hname (by decide)), if_neg (hname (by decide)),
    Number.read?_render h]
  rfl

theorem spells_number {n : Number} (h : n.Fits) : Spells n.render [.num n.reread] := by
  refine spells_word ?_ ?_ (ofWord?_render h)
  · obtain ⟨negative, c, rest, hrender, -⟩ := n.render_eq
    simp [hrender]
  · obtain ⟨negative, c, rest, hrender, -, hwords⟩ := n.render_eq
    rw [hrender]
    refine List.forall_mem_append.mpr ⟨?_, hwords⟩
    cases negative with
    | true => exact List.forall_mem_singleton.mpr rfl
    | false => exact List.forall_mem_nil _

theorem hexDigits_control : ∀ n < 32, Text.isHexDigit (Text.hexDigit (n / 16)) ∧
    Text.isHexDigit (Text.hexDigit n) ∧
    Text.ofDigits 16 ['0', '0', Text.hexDigit (n / 16), Text.hexDigit n] = n := by
  decide

theorem step_hex {c : Char} (hc : Text.isHexDigit c) {digits : List Char}
    (hdigits : digits.length < 3) (high : Option Nat) (done : List Token) (read : List Char) :
    Scan.step ⟨done, .quoted read (.hex high digits)⟩ c =
      some ⟨done, .quoted read (.hex high (digits ++ [c]))⟩ := by
  simp [Scan.step, stepQuoted, hc, hdigits]

theorem step_lastHex {c : Char} (hc : Text.isHexDigit c) {digits : List Char}
    (hdigits : digits.length = 3) (high : Option Nat) (done : List Token) (read : List Char) :
    Scan.step ⟨done, .quoted read (.hex high digits)⟩ c =
      (closeHex read high (Text.ofDigits 16 (digits ++ [c]))).map (⟨done, ·⟩) := by
  simp [Scan.step, stepQuoted, hc, hdigits]

theorem foldlM_escape (c : Char) (done : List Token) (read : List Char) :
    (escape c).foldlM Scan.step ⟨done, .quoted read .none⟩ =
      some ⟨done, .quoted (c :: read) .none⟩ := by
  unfold escape
  split
  · rfl
  · rfl
  · rfl
  · rfl
  · rfl
  · rfl
  · rfl
  · next hquote hbackslash _ _ _ _ _ =>
      split
      · next hcontrol =>
          obtain ⟨hhigh, hlow, hvalue⟩ := hexDigits_control c.toNat hcontrol
          have hclose : closeHex read none c.toNat = some (.quoted (c :: read) .none) := by
            have hfirst : isHighHalf c.toNat = false := by simp [isHighHalf]; omega
            have hsecond : isLowHalf c.toNat = false := by simp [isLowHalf]; omega
            simp [closeHex, hfirst, hsecond]
          show ([Text.hexDigit (c.toNat / 16), Text.hexDigit c.toNat].foldlM Scan.step
            ⟨done, .quoted read (.hex none ['0', '0'])⟩) = _
          rw [← hvalue] at hclose
          simp [step_hex hhigh, step_lastHex hlow, hclose]
      · next hplain =>
          have hquote : c ≠ '"' := hquote
          have hbackslash : c ≠ '\\' := hbackslash
          simp [Scan.step, stepQuoted, hplain, hquote, hbackslash]

theorem foldlM_escapes (cs : List Char) (done : List Token) (read : List Char) :
    (cs.flatMap escape).foldlM Scan.step ⟨done, .quoted read .none⟩ =
      some ⟨done, .quoted (cs.reverse ++ read) .none⟩ := by
  induction cs generalizing read with
  | nil => rfl
  | cons c rest ih =>
      rw [List.flatMap_cons, List.foldlM_append, foldlM_escape, List.reverse_cons,
        List.append_assoc]
      exact ih _

theorem ends_quote (s : String) : Ends (quote s) [.str s] := by
  intro done
  rw [quote, List.foldlM_cons]
  show (List.foldlM Scan.step ⟨done, .quoted [] .none⟩ _) = _
  rw [List.foldlM_append, foldlM_escapes, List.append_nil]
  show some _ = _
  simp

/-! ### Values -/

theorem ends_mark {c : Char} {t : Token} (hspace : isSpace c = false) (hquote : c ≠ '"')
    (hword : isWordChar c = false) (hmark : ofMark? c = some t) : Ends [c] [t] := by
  intro done
  simp [Scan.step, Scan.begin, hspace, hquote, hword, hmark]

/-- What follows an item begins with a comma or a line break. -/
theorem prettyItems_eq_cons (level : Nat) (items : List Json) :
    ∃ c rest, prettyItems level items = c :: rest ∧ isWordChar c = false := by
  cases items with
  | nil => exact ⟨_, _, rfl, rfl⟩
  | cons x xs => exact ⟨_, _, rfl, rfl⟩

theorem prettyMembers_eq_cons (level : Nat) (members : List (String × Json)) :
    ∃ c rest, prettyMembers level members = c :: rest ∧ isWordChar c = false := by
  cases members with
  | nil => exact ⟨_, _, rfl, rfl⟩
  | cons entry rest => exact ⟨_, _, rfl, rfl⟩

theorem ends_item {level : Nat} {x : Json} {xs : List Json}
    (hx : Spells (prettyChars (level + 1) x) x.reread.tokens)
    (hxs : Ends (prettyItems level xs) (tokensItems (rereadItems xs))) :
    Ends (newline (level + 1) ++ (prettyChars (level + 1) x ++ prettyItems level xs))
      (x.reread.tokens ++ tokensItems (rereadItems xs)) :=
  (ends_newline _).append (hx.append hxs (prettyItems_eq_cons level xs))

theorem ends_member {level : Nat} (key : String) {value : Json} {rest : List (String × Json)}
    (hvalue : Spells (prettyChars (level + 1) value) value.reread.tokens)
    (hrest : Ends (prettyMembers level rest) (tokensMembers (rereadMembers rest))) :
    Ends (newline (level + 1) ++
        (quote key ++ ':' :: ' ' :: (prettyChars (level + 1) value ++ prettyMembers level rest)))
      (.str key :: .colon :: (value.reread.tokens ++ tokensMembers (rereadMembers rest))) := by
  have hcolon : Ends [':'] [.colon] := ends_mark rfl (by decide) rfl rfl
  have hline := hvalue.append hrest (prettyMembers_eq_cons level rest)
  exact (ends_newline _).append
    ((ends_quote key).append (hcolon.append ((ends_spaces 1).append hline)))

mutual
/-- What is printed for a value spells its tokens, but for the numbers. -/
theorem spells_pretty (level : Nat) (value : Json) (h : value.NumbersFit) :
    Spells (prettyChars level value) value.reread.tokens := by
  match value with
  | .null =>
      rw [prettyChars, reread, tokens]
      exact spells_word (by decide) (List.all_eq_true.mp rfl) rfl
  | .bool b =>
      rw [prettyChars, reread, tokens]
      cases b <;> exact spells_word (by decide) (List.all_eq_true.mp rfl) rfl
  | .num n =>
      cases h with
      | num fits =>
          rw [prettyChars, reread, tokens]
          exact spells_number fits
  | .str s =>
      rw [prettyChars, reread, tokens]
      exact (ends_quote s).spells
  | .arr [] =>
      rw [prettyChars, reread, rereadItems, tokens]
      exact fun done => ⟨_, rfl, .between _⟩
  | .obj [] =>
      rw [prettyChars, reread, rereadMembers, tokens]
      exact fun done => ⟨_, rfl, .between _⟩
  | .arr (x :: xs) =>
      cases h with
      | arr each =>
          obtain ⟨hx, hxs⟩ := List.forall_mem_cons.mp each
          have hbracket : Ends ['['] [.openArray] := ends_mark rfl (by decide) rfl rfl
          rw [prettyChars, reread, rereadItems, tokens]
          exact (hbracket.append
            (ends_item (spells_pretty (level + 1) x hx) (ends_prettyItems level xs hxs))).spells
  | .obj ((key, v) :: rest) =>
      cases h with
      | obj each =>
          have hv := each key v List.mem_cons_self
          have hrest : ∀ k w, (k, w) ∈ rest → w.NumbersFit :=
            fun k w hmem => each k w (List.mem_cons_of_mem _ hmem)
          have hbrace : Ends ['\x7b'] [.openObject] := ends_mark rfl (by decide) rfl rfl
          rw [prettyChars, reread, rereadMembers, tokens]
          exact (hbrace.append (ends_member key (spells_pretty (level + 1) v hv)
            (ends_prettyMembers level rest hrest))).spells

theorem ends_prettyItems (level : Nat) (items : List Json) (h : ∀ item ∈ items, item.NumbersFit) :
    Ends (prettyItems level items) (tokensItems (rereadItems items)) := by
  match items with
  | [] =>
      rw [prettyItems, rereadItems, tokensItems]
      exact (ends_newline level).append (ends_mark rfl (by decide) rfl rfl)
  | x :: xs =>
      obtain ⟨hx, hxs⟩ := List.forall_mem_cons.mp h
      have hcomma : Ends [','] [.comma] := ends_mark rfl (by decide) rfl rfl
      rw [prettyItems, rereadItems, tokensItems]
      exact hcomma.append
        (ends_item (spells_pretty (level + 1) x hx) (ends_prettyItems level xs hxs))

theorem ends_prettyMembers (level : Nat) (members : List (String × Json))
    (h : ∀ key value, (key, value) ∈ members → value.NumbersFit) :
    Ends (prettyMembers level members) (tokensMembers (rereadMembers members)) := by
  match members with
  | [] =>
      rw [prettyMembers, rereadMembers, tokensMembers]
      exact (ends_newline level).append (ends_mark rfl (by decide) rfl rfl)
  | (key, v) :: rest =>
      have hv := h key v List.mem_cons_self
      have hrest : ∀ k w, (k, w) ∈ rest → w.NumbersFit :=
        fun k w hmem => h k w (List.mem_cons_of_mem _ hmem)
      have hcomma : Ends [','] [.comma] := ends_mark rfl (by decide) rfl rfl
      rw [prettyMembers, rereadMembers, tokensMembers]
      exact hcomma.append (ends_member key (spells_pretty (level + 1) v hv)
        (ends_prettyMembers level rest hrest))
end

end Token

end ContentForms.Json
