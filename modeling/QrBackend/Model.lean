import Mathlib
import QrBackend.Chrono

/-! # The backend's records and enumerations — `src/lib.rs`

    The equipment-management backend stores four kinds of record: `Fixtures`
    (a piece of equipment with the QR code stuck on it), `Spot` (a place
    equipment is taken to), `Lending` (one lending of one fixture) and
    `Container`.  Field names follow the source in camel case; `Uuid` is the
    `uuid` crate's 128-bit identifier, ordered as the big-endian number its
    bytes spell (the derived `Ord` on `[u8; 16]`), and `DateTime` is chrono's
    (`QrBackend.Chrono`).

    Three enumerations — `QrColor`, `Stroge`, `Area` — live in `text` columns.
    Each has a hand-written encoder (`Display`, here `fmt`) and a hand-written
    decoder (`From<String>`, here `fromString`), which panics on a text it does
    not know; a panic is `none`.  The decoders are transcribed arm for arm,
    including `Area`'s arm `"kasuga" => Area::Taigei`. -/

namespace QrModel

open Chrono

/-- `uuid::Uuid`. -/
structure Uuid where
  val : Fin (2 ^ 128)
  deriving DecidableEq

/-- The range of a uuid's value is not empty, so a numeral names a uuid; as a
    named instance, every numeral uses this one proof. -/
instance Uuid.range_neZero : NeZero (2 ^ 128 : Nat) :=
  ⟨by decide⟩

theorem Uuid.val_injective : Function.Injective Uuid.val := by
  intro a b h
  cases a
  cases b
  cases h
  rfl

/-- Uuids are ordered by their value; equality is decided by the derived
    instance, so every `decide (a = b)` on uuids is the same term. -/
instance : LinearOrder Uuid where
  le a b := a.val ≤ b.val
  lt a b := a.val < b.val
  le_refl a := le_refl a.val
  le_trans _ _ _ := le_trans
  lt_iff_le_not_ge _ _ := lt_iff_le_not_ge
  le_antisymm _ _ h1 h2 := Uuid.val_injective (le_antisymm h1 h2)
  le_total a b := le_total a.val b.val
  toDecidableLE a b := inferInstanceAs (Decidable (a.val ≤ b.val))
  toDecidableEq := instDecidableEqUuid

/-- The 32 lower-case hex digits of a uuid, most significant first. -/
def Uuid.hexDigits (u : Uuid) : List Char :=
  let ds := Nat.toDigits 16 u.val.val
  List.replicate (32 - ds.length) '0' ++ ds

/-- `Display for Uuid`: the hyphenated `8-4-4-4-12` form. -/
def Uuid.toString (u : Uuid) : String :=
  let h := u.hexDigits
  String.ofList (h.take 8 ++ '-' :: (h.drop 8).take 4 ++ '-' :: (h.drop 12).take 4
    ++ '-' :: (h.drop 16).take 4 ++ '-' :: h.drop 20)

/-- The colour of the QR code stuck on an item. -/
inductive QrColor where
  | red | orange | brown | lightBlue | blue | green | yellow | purple | pink
  deriving DecidableEq, Repr

/-- `Display for QrColor`. -/
def QrColor.fmt : QrColor → String
  | .red => "red"
  | .orange => "orange"
  | .brown => "brown"
  | .lightBlue => "light_blue"
  | .blue => "blue"
  | .green => "green"
  | .yellow => "yellow"
  | .purple => "purple"
  | .pink => "pink"

/-- `From<String> for QrColor`; `none` is the `panic!` on an unknown text. -/
def QrColor.fromString : String → Option QrColor
  | "red" => some .red
  | "orange" => some .orange
  | "brown" => some .brown
  | "light_blue" => some .lightBlue
  | "blue" => some .blue
  | "green" => some .green
  | "yellow" => some .yellow
  | "purple" => some .purple
  | "pink" => some .pink
  | _ => none

/-- The room an item is stored in (the source's spelling). -/
inductive Stroge where
  | room101 | room102 | room206
  deriving DecidableEq, Repr

/-- `Display for Stroge`. -/
def Stroge.fmt : Stroge → String
  | .room101 => "room101"
  | .room102 => "room102"
  | .room206 => "room206"

/-- `From<String> for Stroge`. -/
def Stroge.fromString : String → Option Stroge
  | "room101" => some .room101
  | "room102" => some .room102
  | "room206" => some .room206
  | _ => none

/-- The campus area a spot lies in. -/
inductive Area where
  | area1 | area2 | area3 | centerLibrary | ishiSquare | kaikan | igaku | taigei
  | kasuga | ichinoya | hirasuna | oikoshi | move
  deriving DecidableEq, Repr

/-- `Display for Area`. -/
def Area.fmt : Area → String
  | .area1 => "area1"
  | .area2 => "area2"
  | .area3 => "area3"
  | .centerLibrary => "center_library"
  | .ishiSquare => "ishi_square"
  | .kaikan => "kaikan"
  | .igaku => "igaku"
  | .taigei => "taigei"
  | .kasuga => "kasuga"
  | .ichinoya => "ichinoya"
  | .hirasuna => "hirasuna"
  | .oikoshi => "oikoshi"
  | .move => "move"

/-- `From<String> for Area`, arm for arm: `"kasuga"` decodes to `taigei`. -/
def Area.fromString : String → Option Area
  | "area1" => some .area1
  | "area2" => some .area2
  | "area3" => some .area3
  | "center_library" => some .centerLibrary
  | "ishi_square" => some .ishiSquare
  | "kaikan" => some .kaikan
  | "igaku" => some .igaku
  | "taigei" => some .taigei
  | "kasuga" => some .taigei
  | "ichinoya" => some .ichinoya
  | "hirasuna" => some .hirasuna
  | "oikoshi" => some .oikoshi
  | "move" => some .move
  | _ => none

/-- An item of equipment. -/
structure Fixtures where
  id : Uuid
  createdAt : DateTime
  qrId : String
  qrColor : QrColor
  name : String
  description : Option String
  modelNumber : Option String
  storage : Stroge
  usage : Option String
  usageSeason : Option String
  note : String
  parentId : String
  deriving DecidableEq

/-- A place lent equipment is taken to, identified by its name. -/
structure Spot where
  name : String
  area : Area
  building : Option String
  floor : Option Int32
  room : Option String
  note : Option String
  deriving DecidableEq

/-- One lending of one item; it is active while `returnedAt` is `none`. -/
structure Lending where
  id : Uuid
  fixturesId : Uuid
  fixturesQrId : String
  spotName : String
  lendingAt : DateTime
  returnedAt : Option DateTime
  borrowerName : String
  borrowerNumber : Int32
  borrowerOrg : Option String
  deriving DecidableEq

/-- A container items are stored in. -/
structure Container where
  id : Uuid
  qrId : String
  qrColor : QrColor
  storage : Stroge
  description : String
  deriving DecidableEq

/-- A lending is active until it is returned. -/
def Lending.active (l : Lending) : Bool :=
  l.returnedAt.isNone

/-! ## The codecs -/

/-- `QrColor`'s decoder inverts its encoder. -/
@[simp] theorem QrColor.fromString_fmt (c : QrColor) : QrColor.fromString c.fmt = some c := by
  cases c <;> rfl

/-- `Stroge`'s decoder inverts its encoder. -/
@[simp] theorem Stroge.fromString_fmt (s : Stroge) : Stroge.fromString s.fmt = some s := by
  cases s <;> rfl

/-- `Area`'s decoder inverts its encoder everywhere but at `kasuga`. -/
theorem Area.fromString_fmt {a : Area} (h : a ≠ .kasuga) : Area.fromString a.fmt = some a := by
  cases a <;> first | rfl | exact absurd rfl h

/-- At `kasuga` the round trip lands on `taigei`. -/
theorem Area.fromString_fmt_kasuga : Area.fromString Area.kasuga.fmt = some .taigei := rfl

end QrModel
