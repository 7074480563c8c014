import DosWeb.Library.Bytes

/-!
Lines that end at a line feed, read off one after another, against lines that a carriage return
ends as well.
-/

namespace DosWeb.Library.Lines

open Library.Bytes

variable (data : List UInt8)

end DosWeb.Library.Lines
