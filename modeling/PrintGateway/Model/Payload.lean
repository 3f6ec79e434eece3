import PrintGateway.Codec.Base64
import PrintGateway.Json.Canonical
import PrintGateway.Model.Text

/-!
# The payload contract

The vocabularies, limits and signatures of `print-payload-contract.json`, which the Gateway, the Agent
and the Odoo module each check by hand.
-/

namespace PrintGateway

/-- `wireTypes`. -/
inductive PayloadType
  | raw
  | escpos
  | pdf
  | image
  deriving DecidableEq, Repr

/-- `rawProtocols`. -/
inductive RawProtocol
  | raw
  | escpos
  | zpl
  | tspl
  deriving DecidableEq, Repr

/-- `peripherals.drawer`; `off` is the word `none`. -/
inductive DrawerMode
  | pin2
  | pin5
  | off
  deriving DecidableEq, Repr

/-- `peripherals.cutter`. -/
inductive CutterMode
  | part
  | full
  | off
  deriving DecidableEq, Repr

/-- `peripherals.buzzer`. -/
inductive BuzzerMode
  | epsonPulse
  | starBel
  | off
  deriving DecidableEq, Repr

/-- A vocabulary of the contract: its members and their words. -/
class Vocabulary (Word : Type) where
  all : List Word
  text : Word → Text
  complete : ∀ word, word ∈ all
  distinct : (all.map text).Nodup

export Vocabulary (text)

instance : Vocabulary PayloadType where
  all := [.raw, .escpos, .pdf, .image]
  text
    | .raw => "raw"
    | .escpos => "escpos"
    | .pdf => "pdf"
    | .image => "image"
  complete word := by cases word <;> decide
  distinct := by decide

instance : Vocabulary RawProtocol where
  all := [.raw, .escpos, .zpl, .tspl]
  text
    | .raw => "raw"
    | .escpos => "escpos"
    | .zpl => "zpl"
    | .tspl => "tspl"
  complete word := by cases word <;> decide
  distinct := by decide

instance : Vocabulary DrawerMode where
  all := [.pin2, .pin5, .off]
  text
    | .pin2 => "pin2"
    | .pin5 => "pin5"
    | .off => "none"
  complete word := by cases word <;> decide
  distinct := by decide

instance : Vocabulary CutterMode where
  all := [.part, .full, .off]
  text
    | .part => "partial"
    | .full => "full"
    | .off => "none"
  complete word := by cases word <;> decide
  distinct := by decide

instance : Vocabulary BuzzerMode where
  all := [.epsonPulse, .starBel, .off]
  text
    | .epsonPulse => "epson_pulse"
    | .starBel => "star_bel"
    | .off => "none"
  complete word := by cases word <;> decide
  distinct := by decide

namespace Vocabulary

variable {Word : Type} [Vocabulary Word]

/-- The member with a given text. -/
def ofText? (shown : Text) : Option Word := all.find? fun word : Word => text word == shown

theorem text_injective {word other : Word} (same : text word = text other) : word = other :=
  List.inj_on_of_nodup_map distinct (complete word) (complete other) same

@[simp]
theorem ofText?_text (word : Word) : ofText? (text word) = some word := by
  cases found : (ofText? (text word) : Option Word) with
  | none =>
    have missing := List.find?_eq_none.mp found word (complete word)
    simp at missing
  | some other =>
    have same : text other = text word := by simpa using List.find?_some found
    rw [text_injective same]

theorem text_of_ofText? {shown : Text} {word : Word} (found : ofText? shown = some word) : text word = shown := by
  simpa using List.find?_some found

end Vocabulary

/-- The peripherals a payload asks for. -/
structure Peripherals where
  drawer : Option DrawerMode
  cutter : Option CutterMode
  buzzer : Option BuzzerMode
  deriving DecidableEq, Repr

namespace Peripherals

def none : Peripherals := ⟨.none, .none, .none⟩

/-- The actions among them: a mode that is given and is not the word `none`. -/
def active (peripherals : Peripherals) : Peripherals where
  drawer := peripherals.drawer.filter (· ≠ .off)
  cutter := peripherals.cutter.filter (· ≠ .off)
  buzzer := peripherals.buzzer.filter (· ≠ .off)

/-- Some action is asked for. -/
def isActive (peripherals : Peripherals) : Bool :=
  peripherals.drawer.any (· ≠ .off) || peripherals.cutter.any (· ≠ .off) || peripherals.buzzer.any (· ≠ .off)

theorem active_of_not_isActive {peripherals : Peripherals} (inactive : peripherals.isActive = false) :
    peripherals.active = none.active := by
  rcases peripherals with ⟨drawer, cutter, buzzer⟩
  simp only [isActive, Bool.or_eq_false_iff] at inactive
  obtain ⟨⟨drawerOff, cutterOff⟩, buzzerOff⟩ := inactive
  simp only [active, none]
  congr 1
  · cases drawer <;> simp_all
  · cases cutter <;> simp_all
  · cases buzzer <;> simp_all

end Peripherals

def maxPayloadBytes : ℕ := 5 * 1024 * 1024

/-- The bytes of an ASCII text. -/
def asciiBytes (shown : String) : List UInt8 := shown.toList.map fun c => .ofNat c.toNat

/-- `signatures.pdfPrefix`. -/
def pdfPrefix : List UInt8 := asciiBytes "%PDF-"

/-- `signatures.jpegHexPrefix`. -/
def jpegPrefix : List UInt8 := [0xff, 0xd8, 0xff]

/-- The marker at the end of a PDF document. -/
def pdfEof : List UInt8 := asciiBytes "%%EOF"

/-- The marker occurs in the bytes. -/
def occurs (marker bytes : List UInt8) : Bool := bytes.tails.any marker.isPrefixOf

end PrintGateway
