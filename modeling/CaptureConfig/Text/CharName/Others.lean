/-!
# Names of control and format characters

These characters go by names that are not theirs alone in the Unicode character database: the names of
controls, and abbreviations.
-/

namespace CaptureConfig.Text.CharName

/-- Code points and the further names that they go by. -/
def others : List (Nat × String) :=
  [
    (0x0000, "NULL;NUL"),
    (0x0001, "START OF HEADING;SOH"),
    (0x0002, "START OF TEXT;STX"),
    (0x0003, "END OF TEXT;ETX"),
    (0x0004, "END OF TRANSMISSION;EOT"),
    (0x0005, "ENQUIRY;ENQ"),
    (0x0006, "ACKNOWLEDGE;ACK"),
    (0x0007, "ALERT;BEL"),
    (0x0008, "BACKSPACE;BS"),
    (0x0009, "CHARACTER TABULATION;HORIZONTAL TABULATION;HT;TAB"),
    (0x000A, "LINE FEED;NEW LINE;END OF LINE;LF;NL;EOL"),
    (0x000B, "LINE TABULATION;VERTICAL TABULATION;VT"),
    (0x000C, "FORM FEED;FF"),
    (0x000D, "CARRIAGE RETURN;CR"),
    (0x000E, "SHIFT OUT;LOCKING-SHIFT ONE;SO"),
    (0x000F, "SHIFT IN;LOCKING-SHIFT ZERO;SI"),
    (0x0010, "DATA LINK ESCAPE;DLE"),
    (0x0011, "DEVICE CONTROL ONE;DC1"),
    (0x0012, "DEVICE CONTROL TWO;DC2"),
    (0x0013, "DEVICE CONTROL THREE;DC3"),
    (0x0014, "DEVICE CONTROL FOUR;DC4"),
    (0x0015, "NEGATIVE ACKNOWLEDGE;NAK"),
    (0x0016, "SYNCHRONOUS IDLE;SYN"),
    (0x0017, "END OF TRANSMISSION BLOCK;ETB"),
    (0x0018, "CANCEL;CAN"),
    (0x0019, "END OF MEDIUM;EOM"),
    (0x001A, "SUBSTITUTE;SUB"),
    (0x001B, "ESCAPE;ESC"),
    (0x001C, "INFORMATION SEPARATOR FOUR;FILE SEPARATOR;FS"),
    (0x001D, "INFORMATION SEPARATOR THREE;GROUP SEPARATOR;GS"),
    (0x001E, "INFORMATION SEPARATOR TWO;RECORD SEPARATOR;RS"),
    (0x001F, "INFORMATION SEPARATOR ONE;UNIT SEPARATOR;US"),
    (0x0020, "SP"),
    (0x007F, "DELETE;DEL"),
    (0x0080, "PADDING CHARACTER;PAD"),
    (0x0081, "HIGH OCTET PRESET;HOP"),
    (0x0082, "BREAK PERMITTED HERE;BPH"),
    (0x0083, "NO BREAK HERE;NBH"),
    (0x0084, "INDEX;IND"),
    (0x0085, "NEXT LINE;NEL"),
    (0x0086, "START OF SELECTED AREA;SSA"),
    (0x0087, "END OF SELECTED AREA;ESA"),
    (0x0088, "CHARACTER TABULATION SET;HORIZONTAL TABULATION SET;HTS"),
    (0x008D, "REVERSE LINE FEED;REVERSE INDEX;RI"),
    (0x009B, "CONTROL SEQUENCE INTRODUCER;CSI"),
    (0x009C, "STRING TERMINATOR;ST"),
    (0x00A0, "NBSP"),
    (0x00AD, "SHY"),
    (0x200B, "ZWSP"),
    (0x200C, "ZWNJ"),
    (0x200D, "ZWJ"),
    (0x200E, "LRM"),
    (0x200F, "RLM"),
    (0x202F, "NNBSP"),
    (0x2060, "WJ"),
    (0xFEFF, "ZERO WIDTH NO-BREAK SPACE;BYTE ORDER MARK;BOM;ZWNBSP"),
    (0xFFFD, "REPLACEMENT CHARACTER")
  ]

end CaptureConfig.Text.CharName
