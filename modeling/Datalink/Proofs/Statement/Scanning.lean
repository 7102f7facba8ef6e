import Datalink.Proofs.Statement.NamedQuery

/-!
# Scanning statements for quoted identifiers

Input: the words of a statement.  The scan goes over them code point by code point.  A
backtick opens a quoted identifier, two backticks inside one stand for a backtick, and a
single backtick closes it.  What the scan finds is the text outside the identifiers and
the identifiers themselves.

Results: the scan of a query's words ends outside.  The identifiers that it finds are
the parts of the query's names, so that no name ends before its end and none brings
anything into the words around it.  These words depend on the shape of the query alone,
and they hold one question mark for every parameter.
-/

namespace Datalink
namespace Scanner

open Identifier (tick dot quote quotePart)

/-- Where a scan stands: outside the identifiers, inside one with some text, or behind a
backtick inside one that may still turn out to be doubled. -/
inductive Mode where
  | outside
  | inside (read : Text)
  | closing (read : Text)
deriving DecidableEq, Inhabited

/-- What a scan finds. -/
@[ext] structure Found where
  outside : Text
  identifiers : List Text
deriving DecidableEq, Inhabited

namespace Found

/-- What is found in one text after another. -/
def append (a b : Found) : Found := ⟨a.outside ++ b.outside, a.identifiers ++ b.identifiers⟩

instance : Append Found := ⟨append⟩

/-- Text outside identifiers. -/
def text (t : Text) : Found := ⟨t, []⟩

/-- One identifier. -/
def identifier (t : Text) : Found := ⟨[], [t]⟩

/-- What is found in several texts with separators between neighbours. -/
def join (sep : Text) (fs : List Found) : Found :=
  ⟨Text.join sep (fs.map outside), fs.flatMap identifiers⟩

@[simp] theorem outside_append
    (a b : Found) :
    (a ++ b).outside = a.outside ++ b.outside := by
  rfl

@[simp] theorem identifiers_append
    (a b : Found) :
    (a ++ b).identifiers = a.identifiers ++ b.identifiers := by
  rfl

@[simp] theorem outside_text
    (t : Text) :
    (text t).outside = t := by
  rfl

@[simp] theorem identifiers_text
    (t : Text) :
    (text t).identifiers = [] := by
  rfl

@[simp] theorem outside_join
    (sep : Text) (fs : List Found) :
    (join sep fs).outside = Text.join sep (fs.map outside) := by
  rfl

@[simp] theorem identifiers_join
    (sep : Text) (fs : List Found) :
    (join sep fs).identifiers = fs.flatMap identifiers := by
  rfl

theorem append_assoc
    (a b c : Found) :
    a ++ b ++ c = a ++ (b ++ c) := by
  ext1 <;> simp

theorem join_cons_cons
    (sep : Text) (a b : Found) (fs : List Found) :
    join sep (a :: b :: fs) = a ++ (text sep ++ join sep (b :: fs)) := by
  ext1 <;> simp [Text.join]

theorem join_singleton
    (sep : Text) (a : Found) :
    join sep [a] = a := by
  ext1 <;> simp [Text.join]

end Found

/-- The scan of a text from a place on.  It finds nothing if it ends inside an
identifier. -/
def scan : Mode → Text → Option Found
  | .outside, [] => some ⟨[], []⟩
  | .outside, c :: rest =>
      if c = tick then scan (.inside []) rest
      else (scan .outside rest).map (Found.text [c] ++ ·)
  | .inside _, [] => none
  | .inside read, c :: rest =>
      if c = tick then scan (.closing read) rest else scan (.inside (read ++ [c])) rest
  | .closing read, [] => some (Found.identifier read)
  | .closing read, c :: rest =>
      if c = tick then scan (.inside (read ++ [tick])) rest
      else (scan .outside rest).map (Found.identifier read ++ Found.text [c] ++ ·)

/-- Whether a text does not open with a backtick. -/
def Unticked (t : Text) : Prop := t.head? ≠ some tick

/-- Text without backticks stays outside. -/
theorem scan_outside_append
    {t : Text} (h : tick ∉ t) (rest : Text) :
    scan .outside (t ++ rest) = (scan .outside rest).map (Found.text t ++ ·) := by
  induction t with
  | nil =>
      cases hscan : scan .outside rest with
      | none => simp [hscan]
      | some found =>
          simp [hscan]
          rfl
  | cons c t ih =>
      have hc : c ≠ tick := fun hc => h (by simp [hc])
      have ht : tick ∉ t := fun ht => h (by simp [ht])
      rw [List.cons_append, scan, if_neg hc, ih ht, Option.map_map]
      rfl

/-- A closed identifier is found if no further backtick follows. -/
theorem scan_closing
    (read : Text) {rest : Text} (h : Unticked rest) :
    scan (.closing read) rest = (scan .outside rest).map (Found.identifier read ++ ·) := by
  cases rest with
  | nil =>
      rfl
  | cons c rest =>
      have hc : c ≠ tick := by
        rintro rfl
        exact h rfl
      rw [scan, scan, if_neg hc, if_neg hc, Option.map_map]
      simp [Function.comp_def, Found.append_assoc]

/-- The text of a part is read up to its closing backtick. -/
theorem scan_inside
    (read part rest : Text) :
    scan (.inside read) (part.replace tick [tick, tick] ++ tick :: rest) =
      scan (.closing (read ++ part)) rest := by
  induction part generalizing read with
  | nil =>
      simp [Text.replace, scan]
  | cons c part ih =>
      by_cases hc : c = tick
      · subst hc
        simp only [Text.replace_cons_self, List.cons_append, List.nil_append]
        rw [scan, if_pos rfl, scan, if_pos rfl, ih]
        simp
      · rw [Text.replace_cons_of_ne hc, List.cons_append, scan, if_neg hc, ih]
        simp

/-- A quoted part is found as the identifier that it is. -/
theorem scan_quotePart
    (part : Text) {rest : Text} (h : Unticked rest) :
    scan .outside (quotePart part ++ rest) =
      (scan .outside rest).map (Found.identifier part ++ ·) := by
  have hquote : quotePart part ++ rest =
      tick :: (part.replace tick [tick, tick] ++ tick :: rest) := by
    simp [quotePart]
  rw [hquote, scan, if_pos rfl, scan_inside, List.nil_append, scan_closing part h]

/-- The parts of a name, which dots keep apart. -/
def partsOf (name : Text) : List Text := Text.splitAt dot name

/-- The number of parts of a name. -/
def partCount (name : Text) : Nat := (partsOf name).length

/-- The dots between the parts of a name. -/
def dots (parts : Nat) : Text := List.replicate (parts - 1) dot

/-- A quoted name is found as its parts, with dots outside. -/
theorem scan_quote
    (name : Text) {rest : Text} (h : Unticked rest) :
    scan .outside (quote name ++ rest) =
      (scan .outside rest).map
        (⟨dots (partCount name), partsOf name⟩ ++ ·) := by
  unfold quote partCount partsOf
  generalize hparts : Text.splitAt dot name = parts
  cases parts with
  | nil =>
      exact absurd hparts (Text.splitAt_ne_nil dot name)
  | cons part parts =>
      -- The induction is on the parts alone, whatever name they came from.
      clear hparts
      induction parts generalizing part with
      | nil =>
          exact scan_quotePart part h
      | cons next parts ih =>
          have hdot : tick ∉ ([dot] : Text) := by decide
          rw [List.map_cons, List.map_cons, Text.join, List.append_assoc, List.append_assoc,
            scan_quotePart part (by simp [Unticked, dot, tick]), scan_outside_append hdot,
            ← List.map_cons, ih next, Option.map_map, Option.map_map]
          rfl

/-- A piece of a statement is scanned as something if this is found in its words,
whatever stands behind them that is as asked for, and if what stands outside holds a
question mark for every parameter. -/
structure Scans (Behind : Text → Prop) (f : Fragment) (found : Found) : Prop where
  scan_append : ∀ rest, Behind rest →
    scan .outside (f.sql ++ rest) = (scan .outside rest).map (found ++ ·)
  count_outside : found.outside.count (.scalar '?') = f.params.length

/-- Anything at all may stand behind words that hold no name. -/
def Anything (_ : Text) : Prop := True

namespace Scans

variable {Behind Further : Text → Prop} {f g : Fragment} {a b : Found}

theorem plain
    {w : Text} (htick : tick ∉ w) (hhole : w.count (.scalar '?') = 0) :
    Scans Behind (.plain w) (.text w) where
  scan_append rest _ := scan_outside_append htick rest
  count_outside := hhole

theorem parameter
    (v : Value) :
    Scans Behind (.parameter v) (.text "?") where
  scan_append rest _ := scan_outside_append (t := ("?" : Text)) (by decide) rest
  count_outside := by
    rfl

/-- A name, behind which no backtick may stand. -/
theorem name
    (t : Text) :
    Scans Unticked (.name t) ⟨dots (partCount t), partsOf t⟩ where
  scan_append rest h := scan_quote t h
  count_outside := by
    have hdots : ∀ n, (dots n).count (.scalar '?') = 0 := by
      intro n
      rw [dots, List.count_replicate]
      rfl
    exact hdots _

theorem append
    (ha : Scans Behind f a) (hb : Scans Further g b)
    (hbehind : ∀ rest, Further rest → Behind (g.sql ++ rest)) :
    Scans Further (f ++ g) (a ++ b) where
  scan_append rest h := by
    rw [Fragment.sql_append, List.append_assoc, ha.scan_append _ (hbehind rest h),
      hb.scan_append rest h, Option.map_map]
    simp [Function.comp_def, Found.append_assoc]
  count_outside := by
    rw [Found.outside_append, List.count_append, Fragment.params_append,
      List.length_append, ha.count_outside, hb.count_outside]

theorem after
    (ha : Scans Anything f a) (hb : Scans Further g b) :
    Scans Further (f ++ g) (a ++ b) :=
  ha.append hb fun _ _ => trivial

/-- A piece with words in front of it. -/
theorem opening
    (w : Text) (htick : tick ∉ w) (hhole : w.count (.scalar '?') = 0)
    (h : Scans Behind f a) :
    Scans Behind (.plain w ++ f) (.text w ++ a) := by
  have hw : Scans Anything (.plain w) (.text w) := plain htick hhole
  exact hw.after h

/-- What is found may be written down in another way. -/
theorem of_eq
    (h : Scans Behind f a) (e : a = b) :
    Scans Behind f b :=
  e ▸ h

/-- Joined pieces, with separators that hold no name. -/
theorem join
    {ι : Type} (sep : Text) (render : ι → Fragment) (found : ι → Found)
    (hitem : ∀ i, Scans Unticked (render i) (found i))
    (hsep : ∀ t, Unticked (sep ++ t)) (htick : tick ∉ sep)
    (hhole : sep.count (.scalar '?') = 0) (items : List ι) :
    Scans Unticked (.join sep (items.map render)) (Found.join sep (items.map found)) := by
  cases items with
  | nil =>
      exact plain List.not_mem_nil List.count_nil
  | cons i items =>
      induction items generalizing i with
      | nil =>
          have h := hitem i
          rw [List.map_singleton, List.map_singleton, Fragment.join_singleton,
            Found.join_singleton]
          exact h
      | cons j items ih =>
          have h := (hitem i).append (opening sep htick hhole (ih j)) fun rest _ => by
            rw [Fragment.sql_append, List.append_assoc]
            exact hsep _
          rw [List.map_cons, List.map_cons, List.map_cons, List.map_cons,
            Fragment.join_cons_cons, Found.join_cons_cons]
          exact h

end Scans

end Scanner

/-- The form of a condition, with the number of parts of its column's name. -/
inductive ConditionForm where
  | absent (parts : Nat)
  | among (parts values : Nat)
  | equal (parts : Nat)
  | never
deriving DecidableEq, Inhabited

/-- The shape of a query: all but what its names and its values hold.  Of a name it
tells the number of parts, and of a column to sort by also the direction. -/
inductive QueryShape where
  | select (columns : List Nat) (table : Nat) (conditions : List ConditionForm)
      (order : List (Nat × Bool)) (limit offset : Bool)
  | insert (table : Nat) (columns : List Nat)
  | update (table : Nat) (columns : List Nat) (conditions : List ConditionForm)
  | delete (table : Nat) (conditions : List ConditionForm)
deriving DecidableEq, Inhabited

open Scanner (dots partsOf partCount)

/-- The words around the names of a condition. -/
def ConditionForm.outside : ConditionForm → Text
  | absent parts => dots parts ++ " IS NULL"
  | among parts values =>
      dots parts ++ " IN (" ++ Text.join ", " (List.replicate values "?") ++ ")"
  | equal parts => dots parts ++ " = ?"
  | never => "1 = 0"

namespace QueryShape

/-- The words around the names of conditions. -/
def whereOutside (conditions : List ConditionForm) : Text :=
  if conditions.isEmpty then []
  else " WHERE " ++ Text.join " AND " (conditions.map ConditionForm.outside)

/-- The word for a direction. -/
def direction (descending : Bool) : Text := if descending then " DESC" else " ASC"

/-- The words around the names of an order. -/
def orderOutside (order : List (Nat × Bool)) : Text :=
  if order.isEmpty then []
  else " ORDER BY " ++ Text.join ", " (order.map fun k => dots k.1 ++ direction k.2)

/-- The words of limits. -/
def limitOutside (limit offset : Bool) : Text :=
  match limit, offset with
  | false, false => []
  | true, false => " LIMIT ?"
  | _, true => " LIMIT ? OFFSET ?"

/-- The words around the names of the columns to read. -/
def columnsOutside (columns : List Nat) : Text :=
  if columns.isEmpty then "*" else Text.join ", " (columns.map dots)

/-- The words around the names of a query. -/
def outside : QueryShape → Text
  | select columns table conditions order limit offset =>
      "SELECT " ++ columnsOutside columns ++ " FROM " ++ dots table ++
        whereOutside conditions ++ orderOutside order ++ limitOutside limit offset
  | insert table columns =>
      "INSERT INTO " ++ dots table ++ " (" ++ Text.join ", " (columns.map dots) ++
        ") VALUES (" ++ Text.join ", " (columns.map fun _ => "?") ++ ")"
  | update table columns conditions =>
      "UPDATE " ++ dots table ++ " SET " ++
        Text.join ", " (columns.map fun parts => dots parts ++ " = ?") ++
        whereOutside conditions
  | delete table conditions => "DELETE FROM " ++ dots table ++ whereOutside conditions

end QueryShape

namespace NamedQuery

/-- A column to sort by without the sign in front of it. -/
def unsigned (name : Text) : Text := (Text.dropOpening? "-" name).getD name

/-- Whether there is a sign in front of a column to sort by. -/
def signed (name : Text) : Bool := (Text.dropOpening? "-" name).isSome

/-- Whether a value is a choice of no values. -/
def isEmptyChoice : Value → Bool
  | .list [] => true
  | .tuple [] => true
  | _ => false

/-- The columns of conditions, but for those of empty choices. -/
def conditionNames (entries : List (Text × Value)) : List Text :=
  (entries.filter fun e => !isEmptyChoice e.2).map Prod.fst

/-- The names of a query in the order of its words. -/
def names : NamedQuery → List Text
  | select columns table conditions order _ _ =>
      columns ++ [table] ++ conditionNames conditions ++ order.map unsigned
  | insert table assignments => table :: assignments.map Prod.fst
  | update table assignments conditions =>
      table :: assignments.map Prod.fst ++ conditionNames conditions
  | delete table conditions => table :: conditionNames conditions

/-- The form of the condition that an entry stands for. -/
def formOf : Text × Value → ConditionForm
  | (column, .null) => .absent (partCount column)
  | (_, .list []) => .never
  | (_, .tuple []) => .never
  | (column, .list values) => .among (partCount column) values.length
  | (column, .tuple values) => .among (partCount column) values.length
  | (column, _) => .equal (partCount column)

/-- The shape of a query. -/
def shape : NamedQuery → QueryShape
  | select columns table conditions order limit offset =>
      .select (columns.map partCount) (partCount table) (conditions.map formOf)
        (order.map fun name => (partCount (unsigned name), signed name)) limit.isSome
        offset.isSome
  | insert table assignments =>
      .insert (partCount table) (assignments.map fun e => partCount e.1)
  | update table assignments conditions =>
      .update (partCount table) (assignments.map fun e => partCount e.1)
        (conditions.map formOf)
  | delete table conditions => .delete (partCount table) (conditions.map formOf)

open Scanner

variable {Behind : Text → Prop}

theorem unticked_space
    (t : Text) :
    Unticked (.scalar ' ' :: t) := by
  simp [Unticked, Identifier.tick]

theorem unticked_separator
    (t : Text) :
    Unticked ((", " : Text) ++ t) := by
  simp [Unticked, Identifier.tick, Text.ofString]

theorem unticked_close
    (t : Text) :
    Unticked (.scalar ')' :: t) := by
  simp [Unticked, Identifier.tick]

theorem scans_column
    {f : Fragment} {found : Found} (column : Text) (h : Scans Behind f found)
    (hopen : ∀ t, Unticked (f.sql ++ t)) :
    Scans Behind (.name column ++ f)
      (⟨dots (partCount column), partsOf column⟩ ++ found) :=
  (Scans.name column).append h fun t _ => hopen t

theorem scans_values
    (values : List Value) :
    Scans Unticked (.join ", " (values.map .parameter))
      (.text (Text.join ", " (List.replicate values.length "?"))) := by
  have h :=
    Scans.join ", " Fragment.parameter (fun _ => .text "?") (fun v => Scans.parameter v)
      unticked_separator (by decide) (by decide) values
  refine h.of_eq ?_
  ext1 <;> simp [List.map_const']

theorem scans_absent
    (column : Text) :
    Scans Behind (Condition.absent column).render
      ⟨(ConditionForm.absent (partCount column)).outside, partsOf column⟩ := by
  have hword : Scans Behind (.plain " IS NULL") (.text " IS NULL") :=
    Scans.plain (by decide) (by decide)
  have h := scans_column column hword fun t => unticked_space _
  refine h.of_eq ?_
  ext1 <;> simp [ConditionForm.outside]

theorem scans_among
    (column : Text) (values : List Value) :
    Scans Behind (Condition.among column values).render
      ⟨(ConditionForm.among (partCount column) values.length).outside,
        partsOf column⟩ := by
  have hclose : Scans Behind (.plain ")") (.text ")") :=
    Scans.plain (by decide) (by decide)
  have hvalues :=
    (scans_values values).append hclose fun t _ => unticked_close _
  have hopen := Scans.opening " IN (" (by decide) (by decide) hvalues
  have h := scans_column column hopen fun t => unticked_space _
  have hrender :
      (Condition.among column values).render =
        .name column ++ (.plain " IN (" ++
          (.join ", " (values.map .parameter) ++ .plain ")")) := by
    rw [Condition.render, Fragment.append_assoc, Fragment.append_assoc]
  rw [hrender]
  refine h.of_eq ?_
  ext1 <;> simp [ConditionForm.outside]

theorem scans_equation
    (column : Text) (v : Value) :
    Scans Behind (.name column ++ .plain " = " ++ .parameter v)
      ⟨dots (partCount column) ++ " = ?", partsOf column⟩ := by
  have hvalue : Scans Behind (.parameter v) (.text "?") := Scans.parameter v
  have hopen := Scans.opening " = " (by decide) (by decide) hvalue
  have h := scans_column column hopen fun t => unticked_space _
  rw [Fragment.append_assoc]
  refine h.of_eq ?_
  ext1 <;> simp [Text.ofString]

theorem scans_condition
    (e : Text × Value) :
    Scans Behind (Condition.ofNamed e.1 e.2).render
      ⟨(formOf e).outside, (conditionNames [e]).flatMap partsOf⟩ := by
  have hnever : Scans Behind Condition.never.render ⟨ConditionForm.never.outside, []⟩ :=
    Scans.plain (by decide) (by decide)
  obtain ⟨column, value⟩ := e
  have hnames : partsOf column = [column].flatMap partsOf := by
    simp
  cases value with
  | null =>
      exact (scans_absent column).of_eq (congrArg _ hnames)
  | list values =>
      cases values with
      | nil =>
          exact hnever
      | cons v values =>
          exact (scans_among column (v :: values)).of_eq (congrArg _ hnames)
  | tuple values =>
      cases values with
      | nil =>
          exact hnever
      | cons v values =>
          exact (scans_among column (v :: values)).of_eq (congrArg _ hnames)
  | _ =>
      exact (scans_equation column _).of_eq (congrArg _ hnames)

theorem flatMap_conditionNames
    (entries : List (Text × Value)) :
    (entries.flatMap fun e => (conditionNames [e]).flatMap partsOf) =
      (conditionNames entries).flatMap partsOf := by
  induction entries with
  | nil =>
      rfl
  | cons e entries ih =>
      have hcons :
          conditionNames (e :: entries) = conditionNames [e] ++ conditionNames entries := by
        cases h : isEmptyChoice e.2 <;> simp [conditionNames, h]
      rw [List.flatMap_cons, ih, hcons, List.flatMap_append]

theorem scans_whereClause
    (entries : List (Text × Value)) :
    Scans Unticked (Statement.whereClause (conditionsOf entries))
      ⟨QueryShape.whereOutside (entries.map formOf),
        (conditionNames entries).flatMap partsOf⟩ := by
  cases entries with
  | nil =>
      exact Scans.plain List.not_mem_nil List.count_nil
  | cons e entries =>
      have hconditions :=
        Scans.join " AND " (fun e : Text × Value => (Condition.ofNamed e.1 e.2).render) _
          (fun e => scans_condition e) (fun t => unticked_space _) (by decide) (by decide)
          (e :: entries)
      rw [whereClause_cons]
      refine (Scans.opening " WHERE " (by decide) (by decide) hconditions).of_eq ?_
      rw [← flatMap_conditionNames]
      ext1 <;>
        simp [QueryShape.whereOutside, Function.comp_def, List.flatMap_map]

theorem ofName_eq
    (name : Text) :
    SortKey.ofName name = ⟨unsigned name, signed name⟩ := by
  unfold SortKey.ofName
  split
  · rfl
  · rename_i h
    have hsign : Text.dropOpening? "-" name = none := by
      cases name with
      | nil =>
          rfl
      | cons c rest =>
          have hc : CodePoint.scalar '-' ≠ c := by
            rintro rfl
            exact h rest rfl
          change (if CodePoint.scalar '-' = c then Text.dropOpening? [] rest else none) = none
          rw [if_neg hc]
    simp [unsigned, signed, hsign]

theorem scans_sortKey
    (name : Text) :
    Scans Behind (SortKey.ofName name).render
      ⟨dots (partCount (unsigned name)) ++ QueryShape.direction (signed name),
        partsOf (unsigned name)⟩ := by
  have hdescending : Scans Behind (.plain " DESC") (.text " DESC") :=
    Scans.plain (by decide) (by decide)
  have hascending : Scans Behind (.plain " ASC") (.text " ASC") :=
    Scans.plain (by decide) (by decide)
  rw [ofName_eq, SortKey.render]
  cases signed name with
  | true =>
      refine (scans_column _ hdescending fun t => unticked_space _).of_eq ?_
      ext1 <;> simp [QueryShape.direction]
  | false =>
      refine (scans_column _ hascending fun t => unticked_space _).of_eq ?_
      ext1 <;> simp [QueryShape.direction]

theorem scans_orderClause
    (order : List Text) :
    Scans Unticked (Statement.orderClause (order.map SortKey.ofName))
      ⟨QueryShape.orderOutside
          (order.map fun name => (partCount (unsigned name), signed name)),
        (order.map unsigned).flatMap partsOf⟩ := by
  cases order with
  | nil =>
      exact Scans.plain List.not_mem_nil List.count_nil
  | cons name order =>
      have hkeys :=
        Scans.join ", " (fun name => (SortKey.ofName name).render) _
          (fun name => scans_sortKey name) unticked_separator (by decide) (by decide)
          (name :: order)
      have hrender :
          Statement.orderClause ((name :: order).map SortKey.ofName) =
            .plain " ORDER BY " ++ .join ", "
              ((name :: order).map fun name => (SortKey.ofName name).render) := by
        simp [Statement.orderClause, Function.comp_def]
      rw [hrender]
      refine (Scans.opening " ORDER BY " (by decide) (by decide) hkeys).of_eq ?_
      ext1 <;>
        simp [QueryShape.orderOutside, Function.comp_def, List.flatMap_map]

theorem scans_limitClause
    (limit offset : Option Value) :
    Scans Behind (Statement.limitClause limit offset)
      ⟨QueryShape.limitOutside limit.isSome offset.isSome, []⟩ := by
  have hlimit : ∀ {B : Text → Prop} (l : Value),
      Scans B (.plain " LIMIT " ++ .parameter l) (.text " LIMIT " ++ .text "?") :=
    fun l => Scans.opening " LIMIT " (by decide) (by decide) (.parameter l)
  have hboth : ∀ l o : Value,
      Scans Behind
        (.plain " LIMIT " ++ .parameter l ++ .plain " OFFSET " ++ .parameter o)
        ⟨QueryShape.limitOutside true true, []⟩ := by
    intro l o
    have hoffset : Scans Behind (.plain " OFFSET " ++ .parameter o)
        (.text " OFFSET " ++ .text "?") :=
      Scans.opening " OFFSET " (by decide) (by decide) (.parameter o)
    rw [Fragment.append_assoc (.plain " LIMIT " ++ _)]
    exact (hlimit l).after hoffset
  cases limit with
  | none =>
      cases offset with
      | none =>
          exact Scans.plain List.not_mem_nil List.count_nil
      | some o =>
          exact hboth _ o
  | some l =>
      cases offset with
      | none =>
          exact hlimit l
      | some o =>
          exact hboth l o

theorem scans_columns
    (columns : List Text) :
    Scans Unticked (.join ", " (columns.map .name))
      ⟨Text.join ", " ((columns.map partCount).map dots), columns.flatMap partsOf⟩ := by
  have h :=
    Scans.join ", " Fragment.name _ (fun column => Scans.name column) unticked_separator
      (by decide) (by decide) columns
  refine h.of_eq ?_
  ext1 <;> simp [Function.comp_def, List.flatMap_map]

theorem scans_columnList
    (columns : List Text) :
    Scans Unticked (Statement.columnList columns)
      ⟨QueryShape.columnsOutside (columns.map partCount), columns.flatMap partsOf⟩ := by
  cases columns with
  | nil =>
      exact Scans.plain (w := "*") (by decide) (by decide)
  | cons column columns =>
      exact scans_columns (column :: columns)

theorem unticked_of_spaced
    {f : Fragment} (hf : f.Spaced) {rest : Text} (hrest : Unticked rest) :
    Unticked (f.sql ++ rest) := by
  rcases hf with hf | ⟨t, hf⟩
  · rw [hf]
    exact hrest
  · rw [hf]
    exact unticked_space _

theorem scans_select
    (columns : List Text) (table : Text) (conditions : List (Text × Value))
    (order : List Text) (limit offset : Option Value) :
    let n := select columns table conditions order limit offset
    Scans Unticked n.statement.render ⟨n.shape.outside, n.names.flatMap partsOf⟩ := by
  have hcolumns := Scans.opening "SELECT " (by decide) (by decide) (scans_columnList columns)
  have htable := Scans.opening " FROM " (by decide) (by decide) (Scans.name table)
  have hfrom := hcolumns.append htable fun t _ => unticked_space _
  have hwhere := hfrom.append (scans_whereClause conditions)
    fun t => unticked_of_spaced (Statement.spaced_whereClause _)
  have horder := hwhere.append (scans_orderClause order)
    fun t => unticked_of_spaced (Statement.spaced_orderClause _)
  have h := horder.append (scans_limitClause limit offset)
    fun t => unticked_of_spaced (Statement.spaced_limitClause _ _)
  simp only [Fragment.append_assoc] at h
  simp only [statement, Statement.render, Fragment.append_assoc]
  refine h.of_eq ?_
  ext1 <;> simp [shape, names, QueryShape.outside]

theorem scans_insert
    (table : Text) (assignments : List (Text × Value)) :
    let n := insert table assignments
    Scans Unticked n.statement.render ⟨n.shape.outside, n.names.flatMap partsOf⟩ := by
  have htable := Scans.opening "INSERT INTO " (by decide) (by decide) (Scans.name table)
  have hcolumns := Scans.opening " (" (by decide) (by decide)
    (scans_columns (assignments.map Prod.fst))
  have hvalues := Scans.opening ") VALUES (" (by decide) (by decide)
    (scans_values (assignments.map Prod.snd))
  have hclose : Scans Unticked (.plain ")") (.text ")") :=
    Scans.plain (by decide) (by decide)
  have hnames := htable.append hcolumns fun t _ => unticked_space _
  have hall := hnames.append hvalues fun t _ => unticked_close _
  have h := hall.append hclose fun t _ => unticked_close _
  dsimp only
  rw [render_insert]
  simp only [Fragment.append_assoc] at h ⊢
  refine h.of_eq ?_
  ext1 <;> simp [shape, names, QueryShape.outside, Function.comp_def, List.map_const']

theorem scans_update
    (table : Text) (assignments conditions : List (Text × Value)) :
    let n := update table assignments conditions
    Scans Unticked n.statement.render ⟨n.shape.outside, n.names.flatMap partsOf⟩ := by
  have htable := Scans.opening "UPDATE " (by decide) (by decide) (Scans.name table)
  have hassignments := Scans.opening " SET " (by decide) (by decide)
    (Scans.join ", " (fun e : Text × Value => (⟨e.1, e.2⟩ : Assignment).render) _
      (fun e => scans_equation e.1 e.2) unticked_separator (by decide) (by decide)
      assignments)
  have hset := htable.append hassignments fun t _ => unticked_space _
  have h := hset.append (scans_whereClause conditions)
    fun t => unticked_of_spaced (Statement.spaced_whereClause _)
  dsimp only
  rw [render_update]
  simp only [Fragment.append_assoc] at h ⊢
  refine h.of_eq ?_
  ext1 <;> simp [shape, names, QueryShape.outside, Function.comp_def, List.flatMap_map]

theorem scans_delete
    (table : Text) (conditions : List (Text × Value)) :
    let n := delete table conditions
    Scans Unticked n.statement.render ⟨n.shape.outside, n.names.flatMap partsOf⟩ := by
  have htable := Scans.opening "DELETE FROM " (by decide) (by decide) (Scans.name table)
  have h := htable.append (scans_whereClause conditions)
    fun t => unticked_of_spaced (Statement.spaced_whereClause _)
  refine h.of_eq ?_
  ext1 <;> simp [shape, names, QueryShape.outside]

/-- A statement is scanned as the words that its query's shape makes, and as the parts
of its query's names. -/
theorem scans_statement
    (n : NamedQuery) :
    Scans Unticked n.statement.render ⟨n.shape.outside, n.names.flatMap partsOf⟩ := by
  cases n with
  | select columns table conditions order limit offset =>
      exact scans_select columns table conditions order limit offset
  | insert table assignments =>
      exact scans_insert table assignments
  | update table assignments conditions =>
      exact scans_update table assignments conditions
  | delete table conditions =>
      exact scans_delete table conditions

/-- Whatever the names of a query hold, the scan of its words ends outside.  The
identifiers found are the parts of its names; the words outside are those of its shape,
with one question mark for every parameter. -/
theorem scan_render
    (n : NamedQuery) :
    ∃ f found, n.subject.render = .ok f ∧
      scan .outside f.sql = some found ∧
      found.identifiers = n.names.flatMap (Text.splitAt Identifier.dot) ∧
      found.outside = n.shape.outside ∧
      found.outside.count (.scalar '?') = f.params.length := by
  have h := scans_statement n
  have hscan := h.scan_append [] (by simp [Unticked])
  rw [List.append_nil] at hscan
  refine ⟨_, _, render_subject n, hscan, ?_, ?_, ?_⟩
  · exact List.append_nil _
  · exact List.append_nil _
  · have hcount := h.count_outside
    rw [← hcount]
    exact congrArg (List.count _) (List.append_nil _)

end NamedQuery

end Datalink
