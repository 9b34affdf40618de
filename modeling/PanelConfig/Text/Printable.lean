import PanelConfig.Text.PrintableTable

/-! Printable characters: those that a quoted text shows as they are. -/

namespace PanelConfig.Text

/-- The character is printable. Of the separators only the space is. -/
def isPrintable (c : Char) : Bool := !covers unprintableRanges c.toNat

end PanelConfig.Text
