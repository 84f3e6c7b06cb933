import ScanFault.Proofs.Item.Equality
import ScanFault.Proofs.Session.Steps

/-!
# What replies depend on

A report holds two faults, and only a raise looks at the one that it was made with.  To say so, the
reports of a session are renewed: each is replaced by the report of its current fault alone
(`Session.renewed`).  Every query but a raise has the same reply in the renewed session
(`Session.reply_renewed`).  That goes for equality and for the search by hash as well.

`Session.Shows` lists what is replied about a report, query by query, in terms of one fault, and
`Session.shows_of_report` says that this is the current one.
-/

namespace ScanFault

/-! ## Renewed items -/

/-- The report as it would be if it were made with its current fault. -/
def Report.renewed (report : Report) : Report :=
  ⟨report.fault, report.fault⟩

/-- The item with its report renewed.  A fault stays as it is. -/
def Item.renewed : Item → Item
  | .fault content => .fault content
  | .report content => .report content.renewed

namespace Item

theorem view_renewed (item : Item) : item.renewed.view = item.view := by
  cases item with
  | fault content => rfl
  | report content => rfl

theorem current_renewed (item : Item) : item.renewed.current = item.current := by
  cases item with
  | fault content => rfl
  | report content => rfl

theorem get_renewed (item : Item) (field : Field) : item.renewed.get field = item.get field := by
  cases item with
  | fault content => rfl
  | report content => cases field <;> rfl

theorem judge_renewed (item : Item) (text : Text) : item.renewed.judge text = item.judge text := by
  cases item with
  | fault content => rfl
  | report content => rfl

theorem pattern_renewed (item : Item) : item.renewed.pattern = item.pattern := by
  cases item with
  | fault content => rfl
  | report content => rfl

theorem beq_renewed (a b : Item) : (a.renewed == b.renewed) = (a == b) := by
  cases a with
  | fault a =>
    cases b with
    | fault b => rfl
    | report b => rfl
  | report a =>
    cases b with
    | fault b => rfl
    | report b => rfl

theorem isAmong_renewed (digest : Fault.Key → UInt64) (item : Item) (others : List Item) :
    item.renewed.isAmong digest (others.map renewed) = item.isAmong digest others := by
  rw [isAmong, isAmong, List.any_map]
  refine List.any_congr rfl fun other => ?_
  rw [Function.comp_apply, digestBy, digestBy, current_renewed, current_renewed, beq_renewed]
  rfl

theorem distinct_renewed (digest : Fault.Key → UInt64) (seen : List Item)
    (entries : List (String × Item)) :
    distinct digest (seen.map renewed) (entries.map fun entry => (entry.1, entry.2.renewed)) =
      (distinct digest seen entries).map fun entry => (entry.1, entry.2.renewed) := by
  induction entries generalizing seen with
  | nil => rfl
  | cons entry entries ih =>
    rw [List.map_cons, distinct, distinct, isAmong_renewed]
    split
    next => exact ih seen
    next => exact congrArg _ (ih (entry.2 :: seen))

theorem names_distinct_renewed (digest : Fault.Key → UInt64) (entries : List (String × Item)) :
    (distinct digest [] (entries.map fun entry => (entry.1, entry.2.renewed))).map Prod.fst =
      (distinct digest [] entries).map Prod.fst := by
  rw [← List.map_nil (f := renewed), distinct_renewed, List.map_map]
  rfl

theorem items_renewed (entries : List (String × Item)) :
    (entries.map fun entry => (entry.1, entry.2.renewed)).map Prod.snd =
      (entries.map Prod.snd).map renewed := by
  rw [List.map_map, List.map_map]
  rfl

/-! ## Reports of a fault -/

/-- Decides whether the item is a report whose current fault is equal to this one. -/
def reports (item : Item) (fault : Fault) : Bool :=
  match item with
  | .fault _ => false
  | .report content => content.fault == fault

theorem beq_report (item : Item) (root fault : Fault) :
    (item == .report ⟨root, fault⟩) = item.reports fault := by
  cases item with
  | fault content => rfl
  | report content => rfl

theorem report_beq (item : Item) (root fault : Fault) :
    (Item.report ⟨root, fault⟩ == item) = item.reports fault := by
  cases item with
  | fault content => rfl
  | report content => exact Fault.beq_comm fault content.fault

end Item

/-! ## Renewed sessions -/

/-- What is stored, with an intact report renewed. -/
def Stored.renewed : Stored → Stored
  | intact content => intact content.renewed
  | bare => bare
  | altered => altered

/-- What a name is bound to, with an intact report renewed. -/
def Bound.renewed : Bound → Bound
  | fault content => fault content
  | report content => report content.renewed
  | lost => lost

namespace Bound

theorem item?_renewed (bound : Bound) : bound.renewed.item? = bound.item?.map Item.renewed := by
  cases bound with
  | fault content => rfl
  | report content => cases content <;> rfl
  | lost => rfl

theorem get_renewed (bound : Bound) (field : Field) :
    bound.renewed.get field = bound.get field := by
  cases bound with
  | fault content => rfl
  | report content =>
    cases content with
    | intact content => exact (Item.report content).get_renewed field
    | bare => rfl
    | altered => rfl
  | lost => rfl

end Bound

namespace Session

/-- The session with all of its reports renewed. -/
def renewed (session : Session) : Session :=
  { session with reports := session.reports.map Stored.renewed }

theorem bound?_renewed (session : Session) (name : String) :
    session.renewed.bound? name = (session.bound? name).map Bound.renewed := by
  rw [bound?, bound?]
  show (session.names.lookup name).bind session.renewed.resolve = _
  cases session.names.lookup name with
  | none => rfl
  | some handle =>
    cases handle with
    | fault content => rfl
    | report location =>
      show (session.reports.map Stored.renewed)[location]?.map Bound.report = _
      rw [List.getElem?_map, Option.map_map]
      show _ = (session.reports[location]?.map Bound.report).map Bound.renewed
      rw [Option.map_map]
      rfl
    | lost => rfl

theorem bound_renewed (session : Session) (name : String) :
    session.renewed.bound name = (session.bound name).map Bound.renewed := by
  rw [bound, bound, bound?_renewed]
  cases session.bound? name with
  | none => rfl
  | some bound => rfl

theorem lookup?_renewed (session : Session) (name : String) :
    session.renewed.lookup? name = (session.lookup? name).map Item.renewed := by
  rw [lookup?, lookup?, bound?_renewed]
  cases session.bound? name with
  | none => rfl
  | some bound => exact bound.item?_renewed

theorem lookup_renewed (session : Session) (name : String) :
    session.renewed.lookup name = (session.lookup name).map Item.renewed := by
  rw [lookup, lookup, bound_renewed]
  cases session.bound name with
  | error refusal => rfl
  | ok bound =>
    show bound.renewed.item = bound.item.map Item.renewed
    rw [Bound.item, Bound.item, bound.item?_renewed]
    cases bound.item? with
    | none => rfl
    | some item => rfl

theorem entries_cons (session : Session) (name : String) (names : List String) :
    session.entries (name :: names) = (session.lookup name).bind fun item =>
      (session.entries names).map fun entries => (name, item) :: entries := by
  rw [entries, List.mapM_cons]
  cases session.lookup name with
  | error refusal => rfl
  | ok item =>
    show (session.entries names).bind _ = (session.entries names).map _
    cases session.entries names with
    | error refusal => rfl
    | ok entries => rfl

theorem entries_renewed (session : Session) (names : List String) :
    session.renewed.entries names =
      (session.entries names).map (List.map fun entry => (entry.1, entry.2.renewed)) := by
  induction names with
  | nil => rfl
  | cons name names ih =>
    rw [entries_cons, entries_cons, lookup_renewed, ih]
    cases session.lookup name with
    | error refusal => rfl
    | ok item =>
      show ((session.entries names).map _).map _ = ((session.entries names).map _).map _
      cases session.entries names with
      | error refusal => rfl
      | ok entries => rfl

/-! ## Replies -/

/-- A reply that goes on with a bound item may go on with the renewed item instead. -/
theorem bind_lookup_renewed {α : Type} (session : Session) (name : String)
    (next : Item → Attempt α) :
    Attempt.ofExcept (session.renewed.lookup name) >>= next =
      Attempt.ofExcept (session.lookup name) >>= fun item => next item.renewed := by
  rw [lookup_renewed]
  cases session.lookup name with
  | error refusal => rfl
  | ok item => rfl

theorem bind_bound_renewed {α : Type} (session : Session) (name : String)
    (next : Bound → Attempt α) :
    Attempt.ofExcept (session.renewed.bound name) >>= next =
      Attempt.ofExcept (session.bound name) >>= fun bound => next bound.renewed := by
  rw [bound_renewed]
  cases session.bound name with
  | error refusal => rfl
  | ok bound => rfl

theorem bind_entries_renewed {α : Type} (session : Session) (names : List String)
    (next : List (String × Item) → Attempt α) :
    Attempt.ofExcept (session.renewed.entries names) >>= next =
      Attempt.ofExcept (session.entries names) >>= fun entries =>
        next (entries.map fun entry => (entry.1, entry.2.renewed)) := by
  rw [entries_renewed]
  cases session.entries names with
  | error refusal => rfl
  | ok entries => rfl

/-- No query but a raise looks at the fault that a report was made with. -/
theorem reply_renewed (session : Session) {query : Query} (no_raise : ∀ name, query ≠ .raise name) :
    session.renewed.reply query = session.reply query := by
  cases query with
  | view name => simp only [reply, bind_lookup_renewed, Item.view_renewed]
  | compare first second => simp only [reply, bind_lookup_renewed, bne, Item.beq_renewed]
  | distinct names => simp only [reply, bind_entries_renewed, Item.names_distinct_renewed]
  | isAmong name others =>
    simp only [reply, bind_lookup_renewed, bind_entries_renewed, Item.items_renewed,
      Item.isAmong_renewed]
  | get name field => simp only [reply, bind_bound_renewed, Bound.get_renewed]
  | judge name text => simp only [reply, bind_lookup_renewed, Item.judge_renewed]
  | raise name => exact absurd rfl (no_raise name)
  | pattern name => simp only [reply, bind_lookup_renewed, Item.pattern_renewed]

/-! ## Replies about a report -/

/-- What a session replies about a report with this current fault, whatever fault the report was
made with.  Only a raise is left out. -/
structure Shows (session : Session) (name : String) (fault : Fault) : Prop where
  /-- The view has the fault and its line, literal form and rendering. -/
  view : session.reply (.view name) =
    pure (.view (.report ⟨fault.view, fault.line,
      Text.ofString "Error" ++ "(" ++ fault.literal ++ ")", fault.render⟩))
  /-- The field of the fault. -/
  get_fault : session.reply (.get name .fault) = pure (.value (.fault fault.view))
  /-- The field of the line. -/
  get_line : session.reply (.get name .line) = pure (.value (.datum (.text fault.line)))
  /-- What a handler matches on. -/
  pattern : session.reply (.pattern name) =
    pure (.pattern ⟨"Error/" ++ fault.kind.name, fault.fields.map Prod.snd⟩)
  /-- Equality with any bound item, from either side. -/
  compare : ∀ other item, session.lookup? other = some item →
    session.reply (.compare name other) =
        pure (.comparison (item.reports fault) (!item.reports fault)) ∧
      session.reply (.compare other name) =
        pure (.comparison (item.reports fault) (!item.reports fault))
  /-- Membership among bound items. -/
  isAmong : ∀ others entries, session.entries others = .ok entries →
    session.reply (.isAmong name others) =
      pure (.truth (entries.any fun entry => entry.2.reports fault))
  /-- In the renewed session the report is made with the fault that it shows, and every reply is the
  same, also to a query for distinct items. -/
  renewed : session.renewed.lookup? name = some (.report ⟨fault, fault⟩) ∧
    ∀ query, (∀ raised, query ≠ .raise raised) →
      session.renewed.reply query = session.reply query

section Report

variable {session : Session} {name : String} {root fault : Fault}

/-- Every reply about a report but that to a raise is of its current fault. -/
theorem shows_of_report (found : session.lookup? name = some (.report ⟨root, fault⟩)) :
    session.Shows name fault := by
  have found_ok := lookup_eq_ok_iff.mpr found
  have bound_ok := bound_eq_ok_iff.mpr (lookup?_eq_some_iff.mp found)
  refine
    { view := by rw [reply, found_ok]; rfl
      get_fault := by rw [reply, bound_ok]; rfl
      get_line := by rw [reply, bound_ok]; rfl
      pattern := by rw [reply, found_ok]; rfl
      compare := ?_
      isAmong := ?_
      renewed := ⟨?_, fun query no_raise => session.reply_renewed no_raise⟩ }
  · intro other item other_found
    have other_ok := lookup_eq_ok_iff.mpr other_found
    constructor
    · rw [reply, found_ok, other_ok, ← item.report_beq root]
      rfl
    · rw [reply, found_ok, other_ok, ← item.beq_report root]
      rfl
  · intro others entries held
    have found_among : (entries.map Prod.snd).any (· == Item.report ⟨root, fault⟩) =
        entries.any fun entry => entry.2.reports fault := by
      rw [List.any_map]
      exact List.any_congr rfl fun entry => entry.2.beq_report root fault
    rw [reply, found_ok, held, ← found_among, ← Item.isAmong_eq_any hash]
    rfl
  · rw [lookup?_renewed, found]
    rfl

/-- A raise replies with the fault that the report was made with. -/
theorem reply_raise_report (found : session.lookup? name = some (.report ⟨root, fault⟩)) :
    session.reply (.raise name) =
      match fault.render with
      | .ok text => pure (.raised ⟨root.view, text⟩)
      | .error broken => .refuse (.violation broken) := by
  rw [reply, lookup_eq_ok_iff.mpr found]
  show Attempt.ofExcept (Item.report ⟨root, fault⟩).raise >>=
    (fun raised => pure (Reply.raised raised)) = _
  rw [Item.raise, Report.render]
  cases fault.render with
  | ok text => rfl
  | error broken => rfl

end Report

end Session

end ScanFault
