/-!
# Withheld details

Messages name the layer that refused an input. What exactly was wrong inside a data item, a
certificate or a JSON text is not repeated in them; this mark stands in its place.
-/

namespace Passkey

/-- Stands for a reader's own account of a defect. -/
def withheld : String := "<detail>"

end Passkey
