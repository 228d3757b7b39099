/-
  ActivityLog.Proofs.Query.RoundTrip — which requests come back from what is written.

  Two things are settled exactly: which requests a text can be read as, and which
  requests are read back from what `write` makes of them.

  A request is readable when it asks for all values of a field, or when its target is
  not its filter, its value is trimmed and holds no quote, and its period has both
  bounds or is missing. Whatever is read is readable (`isReadable_of_read?`), and
  every readable request is read from some text (`exists_read?_eq`).

  That text is not always the written one. The value is cut at the date keyword
  before its quotes are removed, so a value may hold the keyword where the quotes
  stood inside it. Written out again such a value is cut short. The readable
  requests without the keyword in the value are the ones that come back
  (`comes_back_iff`).

  The value is written as it is, between quotes. It cannot move the cuts around it:
  the first equals sign stands before it, no occurrence of the keyword reaches across
  a quote, and a written timestamp has no letters that could make an `and`.

  What a date clause is read as is told by a relation next to the reader
  (`PeriodReading`): a whole period, or no period and the first fault.
-/

import ActivityLog.Proofs.Query.Forms
import ActivityLog.Proofs.Timestamp

namespace ActivityLog.Query

open Text (isAllBlank IsGap IsTrimmed)

/-! ## Readable requests -/

/-- No period, or one with both bounds. -/
inductive IsWhole : Option Period → Prop where
  | always : IsWhole none
  | between (after before : Timestamp) : IsWhole (some (.between after before))

/-- A lookup that a text can be read as. -/
structure Lookup.IsReadable (l : Lookup) : Prop where
  distinct : l.target ≠ l.filter
  trimmed : IsTrimmed l.value
  unquoted : '"' ∉ l.value
  whole : IsWhole l.period

def Request.IsReadable : Request → Prop
  | .all _ => True
  | .lookup l => l.IsReadable

/-- The date keyword stands in the value. -/
def Request.HoldsKeyword : Request → Prop
  | .all _ => False
  | .lookup l => rangeKeyword <:+: l.value

/-! ## What a date clause can be read as -/

inductive IsClauseFault (clause : Text) : Warning → Prop
  | missingBound : ¬ "and".toList <:+: clause → IsClauseFault clause (.missingBound (Text.trim clause))
  | badLower {after before : Text} {e : Timestamp.ReadError} : Text.IsFirstCut "and".toList clause after before →
      Timestamp.read (unquote after) = .error e → IsClauseFault clause (.badBound e)
  | badUpper {after before : Text} {lower : Timestamp} {e : Timestamp.ReadError} :
      Text.IsFirstCut "and".toList clause after before → Timestamp.read (unquote after) = .ok lower →
      Timestamp.read (unquote before) = .error e → IsClauseFault clause (.badBound e)

/-- What the clause can be read as: the period between two good bounds, or none and one warning. -/
inductive PeriodReading (clause : Text) : Noted (Option Period) → Prop
  | bounds {after before : Text} {lower upper : Timestamp} : Text.IsFirstCut "and".toList clause after before →
      Timestamp.read (unquote after) = .ok lower → Timestamp.read (unquote before) = .ok upper →
      PeriodReading clause { value := some (.between lower upper) }
  | fault {w : Warning} : IsClauseFault clause w → PeriodReading clause { value := none, warnings := [w] }

theorem periodReading (clause : Text) : PeriodReading clause (readPeriod clause) := by
  unfold readPeriod
  split
  · rename_i h
    exact .fault (.missingBound ((Text.splitOnce_eq_none_iff (by decide) clause).mp h))
  · rename_i after before h
    have hcut := (Text.splitOnce_eq_some_iff (by decide)).mp h
    split
    · rename_i lower upper hlower hupper
      exact .bounds hcut hlower hupper
    · rename_i e he
      exact .fault (.badLower hcut he)
    · rename_i lower e hlower he
      exact .fault (.badUpper hcut hlower he)

/-! ## What is read is readable -/

theorem quote_not_mem_unquote (text : Text) : '"' ∉ unquote text := by
  intro h
  have := (Text.trim_infix _).subset h
  simp at this

theorem isWhole_readPeriod (clause : Text) : IsWhole (readPeriod clause).value := by
  have hreading := periodReading clause
  generalize readPeriod clause = noted at hreading ⊢
  cases hreading with
  | bounds _ _ _ => exact .between _ _
  | fault _ => exact .always

theorem isWhole_readCondition (text : Text) : IsWhole (readCondition text).2.value := by
  unfold readCondition
  split
  · exact isWhole_readPeriod _
  · exact .always

theorem isReadable_of_read? {q : Text} {r : Request} (h : Request.read? q = some r) : r.IsReadable := by
  cases r with
  | all f => trivial
  | lookup l =>
    obtain ⟨rest, -, hne, hvalue, hperiod⟩ := read?_eq_lookup_iff.mp h
    rw [readCondition_fst] at hvalue
    refine ⟨hne, ?_, ?_, ?_⟩
    · rw [hvalue]; exact Text.isTrimmed_trim _
    · rw [hvalue]; exact quote_not_mem_unquote _
    · rw [hperiod]; exact isWhole_readCondition rest

/-! ## A written date clause -/

theorem filter_quote_eq_self {text : Text} (h : '"' ∉ text) : text.filter (· != '"') = text :=
  List.filter_eq_self.mpr fun _ hc => bne_iff_ne.mpr fun he => h (he ▸ hc)

theorem quote_not_mem_blanks {b : Text} (hb : isAllBlank b = true) : '"' ∉ b :=
  Text.not_mem_of_isAllBlank hb rfl

theorem unquote_append_blanks {b : Text} (hb : isAllBlank b = true) (text : Text) :
    unquote (text ++ b) = unquote text := by
  rw [unquote, List.filter_append, filter_quote_eq_self (quote_not_mem_blanks hb), Text.trim_append_blanks hb, unquote]

/-- Quotes around a value come off, and so do the blanks outside them. -/
theorem unquote_quoted {a b value : Text} (ha : isAllBlank a = true) (hb : isAllBlank b = true)
    (ht : IsTrimmed value) (hq : '"' ∉ value) : unquote (a ++ '"' :: (value ++ '"' :: b)) = value := by
  have hfilter : (a ++ '"' :: (value ++ '"' :: b)).filter (· != '"') = a ++ (value ++ b) := by
    simp [filter_quote_eq_self hq, filter_quote_eq_self (quote_not_mem_blanks ha),
      filter_quote_eq_self (quote_not_mem_blanks hb)]
  rw [unquote, hfilter, Text.trim_blanks_append ha, Text.trim_append_blanks hb, Text.trim_eq_self_iff.mpr ht]

theorem unquote_quoted_write {a b : Text} (ha : isAllBlank a = true) (hb : isAllBlank b = true) (t : Timestamp) :
    unquote (a ++ '"' :: (t.write ++ '"' :: b)) = t.write :=
  unquote_quoted ha hb t.isTrimmed_write (Timestamp.not_mem_write (by decide) t)

theorem readPeriod_bounds (after before : Timestamp) :
    readPeriod (' ' :: '"' :: (after.write ++ "\" and \"".toList ++ before.write ++ ['"'])) =
      { value := some (.between after before) } := by
  have hfirst : ¬ "and".toList <:+: (' ' :: '"' :: (after.write ++ ['"', ' '])) ++ "and".toList.dropLast := by
    intro h
    have hd : 'd' ∈ (' ' :: '"' :: (after.write ++ ['"', ' '])) ++ "and".toList.dropLast := h.subset (by decide)
    simp [Timestamp.not_mem_write (c := 'd') (by decide) after] at hd
  have hcut := Text.splitOnce_of_first hfirst (' ' :: '"' :: (before.write ++ ['"']))
  have hclause : (' ' :: '"' :: (after.write ++ ['"', ' '])) ++ "and".toList ++ ' ' :: '"' :: (before.write ++ ['"']) =
      ' ' :: '"' :: (after.write ++ "\" and \"".toList ++ before.write ++ ['"']) := by simp
  rw [hclause] at hcut
  have hafter : unquote (' ' :: '"' :: (after.write ++ ['"', ' '])) = after.write :=
    unquote_quoted_write (a := [' ']) (b := [' ']) (by decide) (by decide) after
  have hbefore : unquote (' ' :: '"' :: (before.write ++ ['"'])) = before.write :=
    unquote_quoted_write (a := [' ']) (b := []) (by decide) (by decide) before
  simp only [readPeriod, hcut, hafter, hbefore, Timestamp.read_write]

theorem readCondition_of_no_keyword {text : Text} (h : ¬ rangeKeyword <:+: text) :
    readCondition text = (unquote text, { value := none }) := by
  have hnone : Text.splitOnce rangeKeyword text = none := (Text.splitOnce_eq_none_iff (by decide) text).mpr h
  simp only [readCondition, hnone]

/-- What stands before a written date clause is the value, where no keyword begins in it. -/
theorem readCondition_append_writePeriod {before : Text} {period : Option Period} (hw : IsWhole period)
    (h : ¬ rangeKeyword <:+: before ++ ' ' :: rangeKeyword.dropLast) :
    readCondition (before ++ writePeriod period) = (unquote before, { value := period }) := by
  cases hw with
  | always =>
    rw [show writePeriod none = [] from rfl, List.append_nil]
    exact readCondition_of_no_keyword fun hi => h (List.infix_append_of_infix_left hi)
  | between a b =>
    have hfirst : ¬ rangeKeyword <:+: (before ++ [' ']) ++ rangeKeyword.dropLast := by simpa using h
    have hcut := Text.splitOnce_of_first hfirst (' ' :: '"' :: (a.write ++ "\" and \"".toList ++ b.write ++ ['"']))
    have htext :
        (before ++ [' ']) ++ rangeKeyword ++ ' ' :: '"' :: (a.write ++ "\" and \"".toList ++ b.write ++ ['"']) =
        before ++ writePeriod (some (.between a b)) := by
      show _ = before ++ (' ' :: rangeKeyword ++ " \"".toList ++ a.write ++ "\" and \"".toList ++ b.write ++ ['"'])
      simp
    rw [htext] at hcut
    simp only [readCondition, hcut, readPeriod_bounds, unquote_append_blanks (b := [' ']) (by decide)]

/-! ## Written lookups -/

def heading (target filter : Field) : Text :=
  "get ".toList ++ target.token ++ " for ".toList ++ filter.token ++ " =".toList

theorem isGap_space : IsGap [' '] := ⟨by decide, by decide⟩

theorem longForm?_heading (target filter : Field) (rest : Text) :
    longForm? (heading target filter ++ rest) = some (target.token, filter.token, rest) := by
  refine longForm?_iff_layout.mpr ⟨[], [' '], [' '], [' '], [' '], rfl, isGap_space, target.isFieldWord_token,
    isGap_space, isGap_space, filter.isFieldWord_token, isGap_space.blank, ?_⟩
  unfold heading
  simp

theorem read?_heading {l : Lookup} {rest : Text} (hne : l.target ≠ l.filter)
    (h : readCondition rest = (l.value, { value := l.period })) :
    Request.read? (heading l.target l.filter ++ rest) = some (.lookup l) := by
  refine read?_eq_lookup_iff.mpr ⟨rest, longForm?_heading _ _ rest, hne, ?_, ?_⟩
  · rw [h]
  · rw [h]

theorem write_lookup (l : Lookup) : (Request.lookup l).write =
    heading l.target l.filter ++ (' ' :: '"' :: (l.value ++ ['"']) ++ writePeriod l.period) := by
  have hmark : " = \"".toList = " =".toList ++ [' ', '"'] := by decide
  show "get ".toList ++ l.target.token ++ " for ".toList ++ l.filter.token ++ " = \"".toList ++ l.value ++
    '"' :: writePeriod l.period = _
  unfold heading
  simp only [hmark, List.append_assoc, List.cons_append, List.nil_append]

theorem read?_write_all (f : Field) : Request.read? (Request.all f).write = some (.all f) := by
  refine read?_eq_all_iff.mpr (shortForm?_iff_layout.mpr
    ⟨[], [' '], [], rfl, isGap_space, f.isFieldWord_token.toIsWord, rfl, ?_⟩)
  show "get ".toList ++ f.token = _
  rw [List.append_nil]; rfl

/-- A readable request without the date keyword comes back from what is written. -/
theorem read?_write {r : Request} (hr : r.IsReadable) (hk : ¬ r.HoldsKeyword) : Request.read? r.write = some r := by
  cases r with
  | all f => exact read?_write_all f
  | lookup l =>
    have hquote : '"' ∉ rangeKeyword := by decide
    -- The quotes around the value keep an occurrence of the keyword from reaching into it.
    have hfirst : ¬ rangeKeyword <:+: (' ' :: '"' :: (l.value ++ ['"'])) ++ ' ' :: rangeKeyword.dropLast := by
      show ¬ rangeKeyword <:+: [' '] ++ '"' :: (l.value ++ ['"'] ++ ' ' :: rangeKeyword.dropLast)
      rw [List.append_assoc, Text.infix_append_cons hquote, List.singleton_append, Text.infix_append_cons hquote]
      rintro (h | h | h)
      · exact absurd h (by decide)
      · exact hk h
      · exact absurd h (by decide)
    have hvalue : unquote (' ' :: '"' :: (l.value ++ ['"'])) = l.value :=
      unquote_quoted (a := [' ']) (b := []) (by decide) (by decide) hr.trimmed hr.unquoted
    rw [write_lookup]
    refine read?_heading hr.distinct ?_
    rw [readCondition_append_writePeriod hr.whole hfirst, hvalue]

/-! ## Requests that do not come back -/

theorem not_holdsKeyword_of_read?_write {r : Request} (h : Request.read? r.write = some r) : ¬ r.HoldsKeyword := by
  cases r with
  | all f => exact id
  | lookup l =>
    intro hk
    have hquoteless := (isReadable_of_read? h).unquoted
    obtain ⟨rest, hform, -, hvalue, -⟩ := read?_eq_lookup_iff.mp h
    rw [write_lookup, longForm?_heading] at hform
    cases hform
    have hunquoted : '"' ∉ Text.upTo rangeKeyword l.value := fun hmem =>
      hquoteless ((Text.upTo_prefix_self rangeKeyword l.value).subset hmem)
    -- The cut is at the keyword in the value, behind a blank and a quote.
    have hcut : Text.upTo rangeKeyword (' ' :: '"' :: (l.value ++ ['"']) ++ writePeriod l.period) =
        ' ' :: '"' :: Text.upTo rangeKeyword l.value := by
      rw [← Text.upTo_append_of_infix hk (['"'] ++ writePeriod l.period), ← List.append_assoc]
      rfl
    have hread : l.value = Text.trim (' ' :: Text.upTo rangeKeyword l.value) := calc
      l.value = unquote (' ' :: '"' :: Text.upTo rangeKeyword l.value) := by
        rw [← hcut, ← readCondition_fst]; exact hvalue
      _ = Text.trim (' ' :: (Text.upTo rangeKeyword l.value).filter (· != '"')) := rfl
      _ = Text.trim (' ' :: Text.upTo rangeKeyword l.value) := by rw [filter_quote_eq_self hunquoted]
    have hinfix : rangeKeyword <:+: ' ' :: Text.upTo rangeKeyword l.value :=
      (hread ▸ hk : rangeKeyword <:+: Text.trim (' ' :: Text.upTo rangeKeyword l.value)).trans (Text.trim_infix _)
    rcases List.infix_cons_iff.mp hinfix with hi | hi
    · obtain ⟨tail, htail⟩ := hi
      cases htail
    · exact Text.not_infix_upTo (by decide) _ hi

/-- The requests that come back from what is written: those that a text can be read as, where the
    value does not hold the date keyword. -/
theorem comes_back_iff (r : Request) :
    Request.read? r.write = some r ↔ r.IsReadable ∧ ¬ r.HoldsKeyword := by
  constructor
  · intro h
    exact ⟨isReadable_of_read? h, not_holdsKeyword_of_read?_write h⟩
  · intro h
    obtain ⟨hr, hk⟩ := h
    exact read?_write hr hk

example : Request.read? (Request.lookup ⟨.ip, .user, "a = b for\n c and".toList, none⟩).write =
    some (.lookup ⟨.ip, .user, "a = b for\n c and".toList, none⟩) := by decide

/-! ## Every readable request is read -/

theorem filter_quote_separated {value : Text} (h : '"' ∉ value) :
    (value.flatMap fun c => [c, '"']).filter (· != '"') = value := by
  induction value with
  | nil => rfl
  | cons c value ih =>
    rw [List.mem_cons, not_or] at h
    obtain ⟨hc, hvalue⟩ := h
    have : (c != '"') = true := bne_iff_ne.mpr (Ne.symm hc)
    simp [this, ih hvalue]

/-- A readable request is read from some text: quotes behind every character of the value keep the
    date keyword out of it until they are removed. -/
theorem exists_read?_eq {r : Request} (hr : r.IsReadable) : ∃ q, Request.read? q = some r := by
  cases r with
  | all f => exact ⟨_, read?_write_all f⟩
  | lookup l =>
    let spaced := l.value.flatMap fun c => [c, '"']
    have hfirst : ¬ rangeKeyword <:+: spaced ++ ' ' :: rangeKeyword.dropLast := by
      rw [Text.infix_flatMap_separated (by decide) (by decide)]
      decide
    have hvalue : unquote spaced = l.value := by
      rw [unquote, filter_quote_separated hr.unquoted, Text.trim_eq_self_iff.mpr hr.trimmed]
    refine ⟨heading l.target l.filter ++ (spaced ++ writePeriod l.period), read?_heading hr.distinct ?_⟩
    rw [readCondition_append_writePeriod hr.whole hfirst, hvalue]

/-- The keyword comes into a value only where quotes are removed from inside it. -/
theorem keyword_of_quotes {q : Text} {l : Lookup} (h : Request.read? q = some (.lookup l))
    (hk : rangeKeyword <:+: l.value) : ∃ head rest, q = head ++ '=' :: rest ∧ '=' ∉ head ∧
      ¬ rangeKeyword <:+: Text.upTo rangeKeyword rest ∧
      rangeKeyword <:+: (Text.upTo rangeKeyword rest).filter (· != '"') := by
  obtain ⟨rest, hform, -, hvalue, -⟩ := read?_eq_lookup_iff.mp h
  obtain ⟨head, hq, hhead, -⟩ := longForm?_eq_some_iff.mp hform
  rw [hvalue, readCondition_fst] at hk
  exact ⟨head, rest, hq, hhead, Text.not_infix_upTo (by decide) rest, hk.trans (Text.trim_infix _)⟩

/-- What can be read, and what of it comes back: the readable requests, and those of them whose value
    does not hold the date keyword. A value holds it only where the quotes of the query hid it. -/
theorem readable_requests :
    (∀ r : Request, (∃ q, Request.read? q = some r) ↔ r.IsReadable) ∧
    (∀ q r, Request.read? q = some r → (Request.read? r.write = some r ↔ ¬ r.HoldsKeyword)) ∧
    (∀ q l, Request.read? q = some (.lookup l) → rangeKeyword <:+: l.value →
      ∃ head rest, q = head ++ '=' :: rest ∧ '=' ∉ head ∧ ¬ rangeKeyword <:+: Text.upTo rangeKeyword rest ∧
        rangeKeyword <:+: (Text.upTo rangeKeyword rest).filter (· != '"')) := by
  refine ⟨fun r => ⟨?_, exists_read?_eq⟩, fun q r h => ⟨not_holdsKeyword_of_read?_write, ?_⟩,
    fun q l => keyword_of_quotes⟩
  · intro h
    obtain ⟨q, h⟩ := h
    exact isReadable_of_read? h
  · exact read?_write (isReadable_of_read? h)

/-- A query whose value has the date keyword once its quotes are gone, so that it does not come back. -/
theorem readable_requests_hidden_keyword :
    Request.read? "get ip for user = a\"nd date between".toList =
      some (.lookup ⟨.ip, .user, "and date between".toList, none⟩) ∧
    Request.read? (Request.lookup ⟨.ip, .user, "and date between".toList, none⟩).write ≠
      some (.lookup ⟨.ip, .user, "and date between".toList, none⟩) ∧
    ∃ head rest, "get ip for user = a\"nd date between".toList = head ++ '=' :: rest ∧ '=' ∉ head ∧
      ¬ rangeKeyword <:+: Text.upTo rangeKeyword rest ∧
      rangeKeyword <:+: (Text.upTo rangeKeyword rest).filter (· != '"') := by
  have hread : Request.read? "get ip for user = a\"nd date between".toList =
      some (.lookup ⟨.ip, .user, "and date between".toList, none⟩) := by decide
  have hholds : rangeKeyword <:+: "and date between".toList := by decide
  refine ⟨hread, fun hback => ?_, readable_requests.2.2 _ _ hread hholds⟩
  exact (readable_requests.2.1 _ _ hread).mp hback hholds

end ActivityLog.Query
