import RecordMapper.Function.Basic
import RecordMapper.Json.Reader
import RecordMapper.Proofs.Except
import RecordMapper.Value.Membership

/-!
How values fail. Whatever is asked of a value, whether it is read, taken apart, compared or taken as
something else, it fails for its form: its kind does not fit, or what it holds does not.
-/
namespace RecordMapper

/-- Is the form of a value the reason of an error? -/
def Error.isFormal : Error → Bool
  | typeMismatch | badValue | overflow | endless | noAttribute | missingMember | outOfRange
  | invalidComparison | badEncoding | badJson _ | misfit _ _ => true
  | _ => false

/-- Only the form of a value can be the reason of a failure. -/
abbrev FailsByForm {α : Type} : Except Error α → Prop := FailsOnly (·.isFormal)

namespace Value

theorem failsByForm_equals (v w : Value) : FailsByForm (v.equals w) := by
  unfold equals
  cases v.equality w with
  | ok b => exact .ok b
  | error why => cases why <;> exact .error rfl

theorem failsByForm_occursAmong (v : Value) (xs : List Value) : FailsByForm (v.occursAmong xs) := by
  induction xs with
  | nil => exact .ok _
  | cons x xs ih => exact .bind (failsByForm_equals x v) fun found => .ite (.ok _) ih

theorem failsByForm_compare (test : Number.Extended → Number.Extended → Bool) (v w : Value) :
    FailsByForm (v.compare test w) := by
  unfold compare
  split
  · exact .ite (.error rfl) (.ok _)
  · exact .error rfl

theorem failsByForm_memberOf (v w : Value) : FailsByForm (v.memberOf w) := by
  have byte (n : Int) (bs : List UInt8) : FailsByForm (memberOf.byteIn n bs) :=
    .ite (.ok _) (.error rfl)
  cases w with
  | list xs | tuple xs => exact failsByForm_occursAmong v xs
  | relation r => exact failsByForm_occursAmong v _
  | set frozen xs | dict es => exact .ite (.ok _) (.error rfl)
  | text s | looseText ns | bytes bs =>
    unfold memberOf
    dsimp only
    split
    all_goals first | exact .ok _ | exact .error rfl | exact byte _ _
  | _ => exact .error rfl

theorem failsByForm_itemAt (xs : List Value) (key : Value) : FailsByForm (itemAt xs key) := by
  cases key with
  | int n =>
    unfold itemAt
    dsimp only
    split
    · exact .ite (.ok _) (.error rfl)
    · exact .error rfl
  | bool b => exact .getD _ rfl
  | _ => exact .error rfl

theorem failsByForm_part (v key : Value) : FailsByForm (v.part key) := by
  cases v with
  | dict es =>
    unfold part
    dsimp only
    split
    · exact .ok _
    · exact .error rfl
  | list xs | tuple xs | bytes bs | text s | looseText ns => exact failsByForm_itemAt _ key
  | _ => exact .error rfl

/-! Values taken as something else. -/

theorem failsByForm_toItems (v : Value) : FailsByForm v.toItems := .getD _ rfl

theorem failsByForm_toEntry (v : Value) : FailsByForm v.toEntry := by
  refine .bind (failsByForm_toItems v) fun items => ?_
  split
  · exact .ite (.ok _) (.error rfl)
  · exact .error rfl

theorem failsByForm_toMapping (v : Value) : FailsByForm v.toMapping := by
  have listed : FailsByForm (do return .ofEntries (← (← v.toItems).mapM toEntry) : Except Error Mapping) :=
    .bind (failsByForm_toItems v) fun items =>
      .bind (.mapM failsByForm_toEntry items) fun entries => .ok _
  cases v with
  | dict es => exact .ok _
  | _ => exact listed

theorem failsByForm_toInteger (v : Value) : FailsByForm v.toInteger := by
  cases v with
  | int n | bool b | uuid s => exact .ok _
  | text s | bytes bs => exact .getD _ rfl
  | float x =>
    cases x with
    | nan n => exact .error rfl
    | _ =>
      unfold toInteger
      exact .getD _ rfl
  | decimal x =>
    cases x with
    | finite q => exact .ok _
    | _ => exact .error rfl
  | _ => exact .error rfl

theorem failsByForm_toText (v : Value) : FailsByForm v.toText := by
  unfold toText
  split
  · exact .ok _
  · split
    · exact .ok _
    · exact .error rfl

end Value

/-! Classes as functions. -/

namespace ValueClass

theorem failsByForm_refuse {α : Type} (kind : MisfitKind) (reason : String) :
    FailsByForm (refuse kind reason : Except Error α) := .error rfl

theorem failsByForm_items (v : Value) : FailsByForm (items v) := by
  unfold items
  split
  · exact .ok _
  · exact failsByForm_refuse _ _

theorem failsByForm_entry (numbered : Value × Nat) : FailsByForm (entry numbered) := by
  unfold entry
  dsimp only
  split
  · exact failsByForm_refuse _ _
  · split
    · exact .ok _
    · exact failsByForm_refuse _ _
  · exact failsByForm_refuse _ _

theorem failsByForm_mapping (v : Value) : FailsByForm (mapping v) := by
  unfold mapping
  split
  · exact .ok _
  · exact failsByForm_refuse _ _
  · exact .bind (failsByForm_items v) fun listed =>
      .bind (.mapM failsByForm_entry listed.zipIdx) fun entries => .ok _

theorem failsByForm_index (v : Value) : FailsByForm (index v) := by
  unfold index
  split
  · exact .ok _
  · exact .ok _
  · exact failsByForm_refuse _ _

theorem failsByForm_byte (v : Value) : FailsByForm (byte v) :=
  .bind (failsByForm_index v) fun _ => .ite (.ok _) (failsByForm_refuse _ _)

theorem failsByForm_byteString (v : Value) : FailsByForm (byteString v) := by
  have zeros (n : Int) : FailsByForm (zeros n) :=
    .ite (failsByForm_refuse _ _) (.ite (.ok _) (failsByForm_refuse _ _))
  unfold byteString
  split
  · exact .ok _
  · exact zeros _
  · exact zeros _
  · exact failsByForm_refuse _ _
  · exact failsByForm_refuse _ _
  · split
    · exact .mapM failsByForm_byte _
    · exact failsByForm_refuse _ _

theorem failsByForm_integer (v : Value) : FailsByForm (integer v) := by
  unfold integer
  split
  · exact .ok _
  all_goals exact failsByForm_refuse _ _

theorem failsByForm_floating (v : Value) : FailsByForm (floating v) := by
  unfold floating
  extract_lets read whole
  have whole (n : Int) : FailsByForm (whole n) := by
    dsimp only [whole]
    split
    · exact failsByForm_refuse _ _
    · exact .ok _
  have read (cs : List Char) : FailsByForm (read cs) := by
    dsimp only [read]
    split
    · exact .ok _
    · exact failsByForm_refuse _ _
  split
  all_goals first | exact .ok _ | exact whole _ | exact read _ | exact failsByForm_refuse _ _

theorem failsByForm_negative (sign : Value) : FailsByForm (negative sign) := by
  unfold negative
  split
  all_goals first | exact .ok _ | exact failsByForm_refuse _ _

theorem failsByForm_digit (v : Value) : FailsByForm (digit v) := by
  unfold digit
  split
  · exact .ok _
  · exact .ite (.ok _) (failsByForm_refuse _ _)
  · exact failsByForm_refuse _ _

theorem failsByForm_coefficient (digits : Value) : FailsByForm (coefficient digits) := by
  unfold coefficient
  split
  · exact .bind (.mapM failsByForm_digit _) fun ds => .ok _
  · exact .bind (.mapM failsByForm_digit _) fun ds => .ok _
  · exact failsByForm_refuse _ _

theorem failsByForm_decimalOfParts (sign digits exponent : Value) :
    FailsByForm (decimalOfParts sign digits exponent) := by
  refine .bind (failsByForm_negative sign) fun negative => ?_
  split
  all_goals first
    | exact .bind (failsByForm_coefficient digits) fun n => .ok _
    | exact failsByForm_refuse _ _

theorem failsByForm_exact (v : Value) : FailsByForm (exact v) := by
  unfold exact
  extract_lets whole
  split
  · exact .ok _
  · exact .ok _
  · exact .ok _
  · exact .ok _
  · split
    · exact .ok _
    · exact failsByForm_refuse _ _
  · exact failsByForm_refuse _ _
  · exact failsByForm_decimalOfParts _ _ _
  · exact failsByForm_decimalOfParts _ _ _
  all_goals exact failsByForm_refuse _ _

theorem failsByForm_calendarDay (v : Value) : FailsByForm (calendarDay v) := by
  have year : FailsByForm (year v) :=
    .bind (failsByForm_index v) fun _ =>
      .ite (failsByForm_refuse _ _) <| .ite (failsByForm_refuse _ _) <|
        .ite (failsByForm_refuse _ _) (failsByForm_refuse _ _)
  unfold calendarDay
  extract_lets ns
  split
  · exact year
  · exact .ite (.ok _) (failsByForm_refuse _ _)

theorem failsByForm_identifier (v : Value) : FailsByForm (identifier v) := by
  unfold identifier
  split
  · split
    · exact .ok _
    · exact failsByForm_refuse _ _
  all_goals first
    | exact failsByForm_refuse _ _
    | skip
  split
  all_goals exact failsByForm_refuse _ _

/-- A class takes a value, or its form is the reason why it does not. -/
theorem failsByForm_convert (v : Value) (c : ValueClass) : FailsByForm (c.convert v) := by
  cases c with
  | bool => exact .ok _
  | text => exact v.failsByForm_toText
  | int => exact .bind (failsByForm_integer v) fun n => .ok _
  | float => exact .bind (failsByForm_floating v) fun x => .ok _
  | decimal => exact .bind (failsByForm_exact v) fun x => .ok _
  | list | tuple => exact .bind (failsByForm_items v) fun listed => .ok _
  | set =>
    refine .bind (failsByForm_items v) fun members => ?_
    split
    · exact .ok _
    · exact failsByForm_refuse _ _
  | dict => exact .bind (failsByForm_mapping v) fun m => .ok _
  | bytes => exact .bind (failsByForm_byteString v) fun bs => .ok _
  | uuid => exact .bind (failsByForm_identifier v) fun s => .ok _
  | date => exact failsByForm_calendarDay v
  | null | object | number => exact failsByForm_refuse _ _

end ValueClass

/-! Documents. -/

namespace Json

theorem failsByForm_parseBy (point : Char → Nat) (cs : List Char) : FailsByForm (parseBy point cs) := by
  refine .mapError (p := fun _ => True) (fun _ _ => trivial) fun stop _ => ?_
  cases stop <;> rfl

theorem failsByForm_parseDocument (ns : List Nat) : FailsByForm (parseDocument ns) := by
  unfold parseDocument
  split
  · exact failsByForm_parseBy _ _
  · exact failsByForm_parseBy _ _

theorem failsByForm_refuseMark (first : Option Nat) : FailsByForm (refuseMark first) := by
  unfold refuseMark
  split
  · exact .error rfl
  · exact .ok _

theorem failsByForm_parse (cs : List Char) : FailsByForm (parse cs) :=
  .bind (failsByForm_refuseMark _) fun _ => failsByForm_parseBy _ cs

theorem failsByForm_parsePoints (ns : List Nat) : FailsByForm (parsePoints ns) :=
  .bind (failsByForm_refuseMark _) fun _ => failsByForm_parseDocument ns

theorem failsByForm_parseBytes (bs : List UInt8) : FailsByForm (parseBytes bs) := by
  unfold parseBytes
  split
  · exact .error rfl
  · exact failsByForm_parseDocument _

end Json

end RecordMapper
