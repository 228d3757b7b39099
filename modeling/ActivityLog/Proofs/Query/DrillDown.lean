/-
  ActivityLog.Proofs.Query.DrillDown — from one field to another, and back.

  Two different fields have two routes, one in either direction. A value that one of them
  finds by another value finds that other value by the way back, for both are parts of one
  entry (`AreTogether`): the routes are each other's transpose (`routes_transposed`).

  One pair is not. From an address to its users the upper bound is dropped, from a user to the
  addresses it counts. So the users of an address are the transpose of the addresses of a user
  without an upper bound. With the bound only one direction is left, from a listed address to
  its user; the other one fails as soon as the upper bound keeps out a moment that the lower
  one lets in.

  The short form lists the values of a field as lines. Each line can be put between the
  quotes of a lookup, as it is shown, and the lookup finds the entries that have the value
  (`drill_down`). So it has an answer for every other field, and the answer is not empty. All
  lines of a field together lead to all values of the other field, as every entry has a value
  in either.

  Two kinds of lines are excepted, which the quotes do not hold: those with a quote inside, and
  those with the date keyword. The entries have to come from log lines; the address of any
  other entry may begin with a blank, which would be lost between the quotes.
-/

import ActivityLog.Proofs.Entry.Reader
import ActivityLog.Proofs.Query.Listing
import ActivityLog.Proofs.Query.Meaning

namespace ActivityLog

theorem Period.contains_dropUpper {p : Period} {t : Timestamp} (h : p.contains t = true) :
    p.dropUpper.contains t = true := by
  rw [contains_iff] at h ⊢
  refine ⟨h.1, fun upper hupper => ?_⟩
  cases hupper

namespace Query

/-! ## Listed values -/

namespace Field

/-- The answer lists values of the field, and this is one of them. -/
def Lists (f : Field) (o : Output) (y : f.Value) : Prop := ∃ values, o = f.output values ∧ y ∈ values

theorem output_injective (f : Field) : Function.Injective f.output := by
  intro a b h
  cases f <;> exact (by cases h; rfl)

theorem lists_output_iff {f : Field} {values : SortedSet f.Value} {y : f.Value} :
    f.Lists (f.output values) y ↔ y ∈ values := by
  refine ⟨fun h => ?_, fun h => ⟨values, rfl, h⟩⟩
  obtain ⟨values', hvalues, hy⟩ := h
  rw [f.output_injective hvalues]
  exact hy

end Field

/-! ## Parts of one entry -/

/-- Some entry of the period has both values. -/
def AreTogether (s : Store) (p : Period) {f g : Field} (x : f.Value) (y : g.Value) : Prop :=
  ∃ e ∈ s.entries, p.contains e.time = true ∧ f.part e = x ∧ g.part e = y

theorem areTogether_comm {s : Store} {p : Period} {f g : Field} {x : f.Value} {y : g.Value} :
    AreTogether s p x y ↔ AreTogether s p y x := by
  simp only [AreTogether, and_comm (a := f.part _ = x)]

/-- What is together in one period is so in another, whatever the store, where that holds all moments of
    the first: any moment can be that of the only entry. -/
theorem areTogether_imp_iff {p q : Period} (f g : Field) :
    (∀ s (x : f.Value) (y : g.Value), AreTogether s p x y → AreTogether s q x y) ↔
      ∀ t, p.contains t = true → q.contains t = true := by
  constructor
  · intro h t ht
    let e : Entry := ⟨[], [], t, .login, 0, .ok⟩
    obtain ⟨e', he', htime, -⟩ := h (.ofEntries [e]) _ _ ⟨e, List.mem_cons_self .., ht, rfl, rfl⟩
    rw [List.mem_singleton.mp he'] at htime
    exact htime
  · intro h s x y htogether
    obtain ⟨e, he, htime, hparts⟩ := htogether
    exact ⟨e, he, h e.time htime, hparts⟩

/-! ## The way back -/

/-- A route lists what is together with the value, in the part of the period that counts. -/
theorem exists_route_lists {target filter : Field} (hne : target ≠ filter) :
    ∃ route, Route.find? target filter = some route ∧
      (∀ p, (target, filter) = (.user, .ip) → route.effective p = p.dropUpper) ∧
      (∀ p, (target, filter) ≠ (.user, .ip) → route.effective p = p) ∧
      ∀ s x y p, target.Lists (route.follow s (filter.operand x) p) y ↔ AreTogether s (route.effective p) x y := by
  obtain ⟨route, hroute, hone, hboth, hfollow⟩ := exists_route hne
  refine ⟨route, hroute, hone, hboth, fun s x y p => ?_⟩
  rw [hfollow, Field.lists_output_iff, Store.mem_values]
  simp only [AreTogether, decide_eq_true_eq]

/-- Where both bounds count in either direction, the routes are each other's transpose. -/
theorem exists_routes_back {t f : Field} (hne : t ≠ f) (hthere : (t, f) ≠ (.user, .ip))
    (hback : (f, t) ≠ (.user, .ip)) : ∃ there back, Route.find? t f = some there ∧ Route.find? f t = some back ∧
      ∀ s x y p, (t.Lists (there.follow s (f.operand x) p) y ↔ f.Lists (back.follow s (t.operand y) p) x) := by
  obtain ⟨there, hfind, -, hboth, hlists⟩ := exists_route_lists hne
  obtain ⟨back, hfind', -, hboth', hlists'⟩ := exists_route_lists hne.symm
  refine ⟨there, back, hfind, hfind', fun s x y p => ?_⟩
  rw [hlists, hlists', hboth p hthere, hboth' p hback]
  exact areTogether_comm

/-- The users of an address are looked for without the upper bound, the addresses of a user with it. -/
theorem exists_users_ips : ∃ users ips,
    Route.find? .user .ip = some users ∧ Route.find? .ip .user = some ips ∧
      (∀ s ip user p, Field.user.Lists (users.follow s (Field.ip.operand ip) p) user ↔
        AreTogether s p.dropUpper ip user) ∧
      (∀ s ip user p, Field.ip.Lists (ips.follow s (Field.user.operand user) p) ip ↔ AreTogether s p ip user) := by
  obtain ⟨users, husers, hone, -, hlists⟩ := exists_route_lists (show Field.user ≠ .ip by decide)
  obtain ⟨ips, hips, -, hboth, hlists'⟩ := exists_route_lists (show Field.ip ≠ .user by decide)
  refine ⟨users, ips, husers, hips, fun s ip user p => ?_, fun s ip user p => ?_⟩
  · rw [hlists, hone p rfl]
  · rw [hlists', hboth p (by decide)]
    exact areTogether_comm

/-- Between two different fields the routes there and back are each other's transpose, for all values and
    periods, except between addresses and users. A user is listed for an address exactly when the
    address is listed for the user without the upper bound. With it, listed addresses lead back to their
    user; listed users lead back to their address, whatever the store, only in those periods whose upper
    bound keeps out nothing. -/
theorem routes_transposed :
    (∀ t f : Field, t ≠ f → (t, f) ≠ (.user, .ip) → (t, f) ≠ (.ip, .user) →
      ∃ there back, Route.find? t f = some there ∧ Route.find? f t = some back ∧ ∀ s x y p,
        (t.Lists (there.follow s (f.operand x) p) y ↔ f.Lists (back.follow s (t.operand y) p) x)) ∧
    ∃ users ips, Route.find? .user .ip = some users ∧ Route.find? .ip .user = some ips ∧
      (∀ s ip user p, Field.user.Lists (users.follow s (Field.ip.operand ip) p) user ↔
        Field.ip.Lists (ips.follow s (Field.user.operand user) p.dropUpper) ip) ∧
      (∀ s ip user p, Field.ip.Lists (ips.follow s (Field.user.operand user) p) ip →
        Field.user.Lists (users.follow s (Field.ip.operand ip) p) user) ∧
      (∀ p, (∀ s ip user, Field.user.Lists (users.follow s (Field.ip.operand ip) p) user →
          Field.ip.Lists (ips.follow s (Field.user.operand user) p) ip) ↔
        ∀ t, p.dropUpper.contains t = true → p.contains t = true) := by
  refine ⟨fun t f hne hthere hback => exists_routes_back hne hthere ?_, ?_⟩
  · rintro ⟨⟩
    exact hback rfl
  obtain ⟨users, ips, husers, hips, husersOf, hipsOf⟩ := exists_users_ips
  refine ⟨users, ips, husers, hips, fun s ip user p => ?_, fun s ip user p => ?_, fun p => ?_⟩
  · rw [husersOf, hipsOf]
  · rw [husersOf, hipsOf]
    exact (areTogether_imp_iff .ip .user).mpr (fun _ => Period.contains_dropUpper) s ip user
  · simp only [husersOf, hipsOf]
    exact areTogether_imp_iff .ip .user

/-- An entry on the upper bound: the user is listed for the address and not the other way round, while
    event and status lead to each other in a period without that bound. -/
theorem routes_transposed_upper_bound : ∃ (s : Store) (upper : Timestamp) (users ips events statuses : Route),
    Route.find? .user .ip = some users ∧ Route.find? .ip .user = some ips ∧
      Field.user.Lists (users.follow s (.text "10.0.0.1".toList) (.upTo upper)) "ann".toList ∧
      ¬ Field.ip.Lists (ips.follow s (.text "ann".toList) (.upTo upper)) "10.0.0.1".toList ∧
    Route.find? .event .status = some events ∧ Route.find? .status .event = some statuses ∧
      Field.event.Lists (events.follow s (.status .failed) .all) Event.login ∧
      Field.status.Lists (statuses.follow s (.event .login) .all) Status.failed := by
  let upper : Timestamp := ⟨2021, 5, 1, 8, 30, 0, by decide⟩
  let s : Store := .ofEntries [⟨"10.0.0.1".toList, "ann".toList, upper, .login, 0, .failed⟩]
  obtain ⟨htransposed, users, ips, husers, hips, hboth, -, -⟩ := routes_transposed
  obtain ⟨events, statuses, hevents, hstatuses, hback⟩ :=
    htransposed .event .status (by decide) (by decide) (by decide)
  cases husers
  cases hips
  cases hevents
  refine ⟨s, upper, _, _, _, statuses, rfl, rfl, ?_, ?_, rfl, hstatuses, ?_, ?_⟩
  · exact (hboth s _ _ _).mpr ⟨.ofList ["10.0.0.1".toList], rfl, List.mem_cons_self ..⟩
  · intro h
    have hnone : (Route.mk .ip .user .ipsOfUser .both).follow s (.text "ann".toList) (.upTo upper) =
        Field.ip.output .empty := by decide
    rw [hnone] at h
    cases Field.lists_output_iff.mp h
  · exact ⟨.ofList [.login], rfl, List.mem_cons_self ..⟩
  · exact (hback s _ _ _).mp ⟨.ofList [.login], rfl, List.mem_cons_self ..⟩

namespace Field

/-! ## Lines of a field -/

theorem writeValue_injective (f : Field) : Function.Injective f.writeValue := by
  cases f with
  | ip => exact Function.injective_id
  | user => exact Function.injective_id
  | date => exact Timestamp.write_injective
  | event => exact Worded.token_injective (α := Event)
  | status => exact Worded.token_injective (α := Status)

/-- The lines of an answer are its values as they stand in a query. -/
theorem lines_output (f : Field) (values : SortedSet f.Value) :
    (f.output values).lines = values.toList.map f.writeValue :=
  match f, values with
  | .ip, values | .user, values => (List.map_id values.toList).symm
  | .date, _ | .event, _ | .status, _ => rfl

theorem mem_lines_output {f : Field} {values : SortedSet f.Value} {line : Text} :
    line ∈ (f.output values).lines ↔ ∃ x ∈ values, f.writeValue x = line := by
  rw [lines_output, List.mem_map]
  rfl

/-- A part of an entry that was read can be asked for, if neither a quote nor the keyword is in it. -/
theorem isWritable_part {line : Text} {e : Entry} (h : Entry.read line = .ok e) (f : Field)
    (hquote : '"' ∉ f.writeValue (f.part e)) (hkeyword : ¬ rangeKeyword <:+: f.writeValue (f.part e)) :
    f.IsWritable (f.part e) :=
  have he := Entry.isRecordable_of_read h
  match f with
  | .ip => ⟨he.ip.trimmed, hquote, hkeyword⟩
  | .user => ⟨he.user.trimmed, hquote, hkeyword⟩
  | .date | .event | .status => trivial

end Field

/-! ## Questions without a period -/

theorem execute_write_all (s : Store) (f : Field) :
    execute s (Request.all f).write = .ok (f.output (s.values .all (fun _ => true) f.part)) := by
  rw [execute_of_read? (read?_write_all f), ← valuesOf_eq_output]
  rfl

/-- A lookup without a period finds the entries that have the value. -/
theorem execute_write_value (s : Store) {target filter : Field} (hne : target ≠ filter) {x : filter.Value}
    (hx : filter.IsWritable x) :
    execute s (Request.lookup ⟨target, filter, filter.writeValue x, none⟩).write =
      .ok (target.output (s.values .all (fun e => filter.part e = x) target.part)) := by
  obtain ⟨route, hroute, hone, hboth, hfollow⟩ := exists_route hne
  obtain ⟨htrimmed, hunquoted, hkeyword⟩ := isQuotable_writeValue hx
  have hread : Request.read? (Request.lookup ⟨target, filter, filter.writeValue x, none⟩).write =
      some (.lookup ⟨target, filter, filter.writeValue x, none⟩) :=
    read?_write (r := .lookup _) ⟨hne, htrimmed, hunquoted, .always⟩ hkeyword
  -- With no upper bound to drop, all routes take the same period.
  have hall : route.effective .all = .all := by
    by_cases h : (target, filter) = (.user, .ip)
    · exact hone .all h
    · exact hboth .all h
  rw [execute_of_read? hread, answer_lookup hroute (readOperand_writeValue filter x), hfollow]
  simp only [Option.getD_none, hall]

def behind (s : Store) (target filter : Field) (line : Text) : SortedSet target.Value :=
  s.values .all (fun e => filter.writeValue (filter.part e) = line) target.part

theorem mem_behind {s : Store} {target filter : Field} {line : Text} {y : target.Value} :
    y ∈ behind s target filter line ↔
      ∃ e ∈ s.entries, filter.writeValue (filter.part e) = line ∧ target.part e = y := by
  simp only [behind, Store.mem_values, Period.contains_all, decide_eq_true_eq, true_and]

/-! ## Drill-down -/

/-- A listed line without quotes and keyword leads to the values behind it, and there are some. -/
theorem execute_write_line {s : Store} (hs : ∀ e ∈ s.entries, ∃ line, Entry.read line = .ok e) {target filter : Field}
    (hne : target ≠ filter) {line : Text}
    (hline : line ∈ (filter.output (s.values .all (fun _ => true) filter.part)).lines) (hquote : '"' ∉ line)
    (hkeyword : ¬ rangeKeyword <:+: line) :
    execute s (Request.lookup ⟨target, filter, line, none⟩).write = .ok (target.output (behind s target filter line)) ∧
      (behind s target filter line).toList ≠ [] := by
  obtain ⟨x, hx, rfl⟩ := Field.mem_lines_output.mp hline
  obtain ⟨e, he, -, -, rfl⟩ := Store.mem_values.mp hx
  obtain ⟨raw, hread⟩ := hs e he
  refine ⟨?_, List.ne_nil_of_mem (mem_behind.mpr ⟨e, he, rfl, rfl⟩)⟩
  rw [execute_write_value s hne (Field.isWritable_part hread filter hquote hkeyword)]
  simp only [behind, filter.writeValue_injective.eq_iff]

/-- The values behind all listed lines are all values there are. -/
theorem unions_behind (s : Store) (target filter : Field) :
    .unions ((filter.output (s.values .all (fun _ => true) filter.part)).lines.map (behind s target filter)) =
      s.values .all (fun _ => true) target.part := by
  refine SortedSet.ext fun y => ?_
  simp only [SortedSet.mem_unions, List.mem_map, exists_exists_and_eq_and, mem_behind, Store.mem_values]
  constructor
  · intro h
    obtain ⟨_, -, e, he, -, rfl⟩ := h
    exact ⟨e, he, Period.contains_all _, trivial, rfl⟩
  · intro h
    obtain ⟨e, he, -, -, rfl⟩ := h
    refine ⟨filter.writeValue (filter.part e), Field.mem_lines_output.mpr ⟨filter.part e, ?_, rfl⟩, e, he, rfl, rfl⟩
    exact Store.mem_values.mpr ⟨e, he, Period.contains_all _, rfl, rfl⟩

/-- Over entries from log lines, every line that a field lists can be put between the quotes of a lookup, if
    neither a quote nor the date keyword is in it, and has an answer with some values. If all lines
    of the field are such lines, the union of their answers is all that the other field lists. -/
theorem drill_down {s : Store} (hs : ∀ e ∈ s.entries, ∃ line, Entry.read line = .ok e) {target filter : Field}
    (hne : target ≠ filter) : ∃ listed : Output, execute s (Request.all filter).write = .ok listed ∧
      (∀ line ∈ listed.lines, '"' ∉ line → ¬ rangeKeyword <:+: line → ∃ values : SortedSet target.Value,
        execute s (Request.lookup ⟨target, filter, line, none⟩).write = .ok (target.output values) ∧
        values.toList ≠ []) ∧
      ((∀ line ∈ listed.lines, '"' ∉ line ∧ ¬ rangeKeyword <:+: line) → ∃ sets : List (SortedSet target.Value),
        listed.lines.map (fun line => execute s (Request.lookup ⟨target, filter, line, none⟩).write) =
          sets.map (fun values => .ok (target.output values)) ∧
        execute s (Request.all target).write = .ok (target.output (.unions sets))) := by
  refine ⟨_, execute_write_all s filter, ?_, ?_⟩
  · intro line hline hquote hkeyword
    exact ⟨_, execute_write_line hs hne hline hquote hkeyword⟩
  · intro hlines
    refine ⟨_, ?_, (unions_behind s target filter).symm ▸ execute_write_all s target⟩
    rw [List.map_map]
    refine List.map_congr_left fun line hline => ?_
    exact (execute_write_line hs hne hline (hlines line hline).1 (hlines line hline).2).1

/-- Three entries at two times, the earlier one a leap second in a year before the first one. Two users stand
    behind it, one of them behind the other time as well, and the two answers together list both once. -/
theorem drill_down_leap_second :
    ∃ (s : Store) (listed : Output) (values : SortedSet Text) (sets : List (SortedSet Text)),
    (∀ e ∈ s.entries, ∃ line, Entry.read line = .ok e) ∧ s.entries.length = 3 ∧
    execute s "get date".toList = .ok listed ∧
    listed.lines = ["29.02.-0044 05:04:60".toList, "01.03.-0044 00:00:00".toList] ∧
    execute s "get user for date = \"29.02.-0044 05:04:60\"".toList = .ok (.texts values) ∧
    values.toList = ["\"A\" = B".toList, "ann".toList] ∧ sets.length = 2 ∧
    execute s "get user".toList = .ok (.texts (.unions sets)) ∧
    (SortedSet.unions sets).toList = ["\"A\" = B".toList, "ann".toList] := by
  let later : Entry := ⟨"::1".toList, "ann".toList, ⟨-44, 3, 1, 0, 0, 0, by decide⟩, .download, 0, .failed⟩
  let first : Entry := ⟨"::1".toList, "\"A\" = B".toList, ⟨-44, 2, 29, 5, 4, 60, by decide⟩, .login, 0, .ok⟩
  let second : Entry := ⟨"::2".toList, "ann".toList, ⟨-44, 2, 29, 5, 4, 60, by decide⟩, .solveTask, 7, .error⟩
  let s : Store := .ofEntries [later, first, second]
  have hlater : Entry.read "::1\tann\t1.3.-44 0:0:0\tDOWNLOAD\tFAILED".toList = .ok later := by decide +kernel
  have hfirst : Entry.read "::1\t\"A\" = B \t29.2.-44 5:4:60\tLOGIN\tOK".toList = .ok first := by decide +kernel
  have hsecond : Entry.read "::2\tann\t29.2.-44 5:4:60\tSOLVE_TASK 7\tERROR".toList = .ok second := by decide +kernel
  have hs : ∀ e ∈ s.entries, ∃ line, Entry.read line = .ok e := by
    intro e he
    rcases List.mem_cons.mp he with rfl | he
    · exact ⟨_, hlater⟩
    · rcases List.mem_pair.mp he with rfl | rfl
      · exact ⟨_, hfirst⟩
      · exact ⟨_, hsecond⟩
  obtain ⟨listed, hlisted, hbehind, hall⟩ := drill_down hs (show Field.user ≠ Field.date by decide)
  have hdates : execute s (Request.all .date).write = .ok (.dates (.ofList [first.time, later.time])) := by
    decide +kernel
  have husers : execute s (Request.all .user).write = .ok (.texts (.ofList [first.user, later.user])) := by
    decide +kernel
  rw [hdates] at hlisted
  cases hlisted
  obtain ⟨values, hvalues, -⟩ := hbehind "29.02.-0044 05:04:60".toList (by decide) (by decide) (by decide)
  have hboth : execute s "get user for date = \"29.02.-0044 05:04:60\"".toList =
      .ok (.texts (.ofList [first.user, later.user])) := by decide +kernel
  obtain rfl := Output.texts.inj (Except.ok.inj (hvalues.symm.trans hboth))
  obtain ⟨sets, hsets, hunion⟩ := hall (by decide)
  have hlength := congrArg List.length hsets
  rw [List.length_map, List.length_map] at hlength
  have hlisted := congrArg SortedSet.toList (Output.texts.inj (Except.ok.inj (hunion.symm.trans husers)))
  exact ⟨s, _, _, sets, hs, rfl, hdates, by decide, hboth, by decide, hlength.symm, hunion, hlisted.trans (by decide)⟩

end Query
end ActivityLog
