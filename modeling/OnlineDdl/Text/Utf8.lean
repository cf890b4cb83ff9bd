/-! The bytes of a text. -/

set_option autoImplicit false

namespace OnlineDdl.Text

def utf8 (s : List Char) : List UInt8 := s.flatMap String.utf8EncodeChar

end OnlineDdl.Text
