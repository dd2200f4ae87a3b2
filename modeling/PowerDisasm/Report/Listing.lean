import PowerDisasm.Disassembly
import PowerDisasm.Image

/-! # Listings

A listing names the code and then has one line for each whole word of it: the
address, the four bytes as they are stored and the text of the record. -/

namespace PowerDisasm.Listing

def header (path : String) (model : Model) (order : ByteOrder) : String :=
  "# " ++ path ++ " (" ++ model.name ++ ", " ++ order.name ++ ")"

def line (stored : WordBytes) (record : Instruction) : String :=
  record.address.text ++ "  " ++ stored.text ++ "  " ++ record.text

def records (model : Model) (order : ByteOrder) (image : Image) : List Instruction :=
  (Disassembly.ofReader model (image.reader order)).all.1

def lines (path : String) (model : Model) (order : ByteOrder) (image : Image) : List String :=
  header path model order ::
    List.zipWith line image.storedWords (records model order image)

end PowerDisasm.Listing
