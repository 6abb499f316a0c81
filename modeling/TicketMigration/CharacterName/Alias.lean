/-!
# Names of characters: aliases

Further names of characters that have one already, and the names of control characters, which have
no other.  The short names of the variation selectors are numbered and not listed.

## Main definitions

* `aliases` is the table.
-/

namespace TicketMigration.CharacterName

/-- The table.  Behind a colon stands the code of a character, and behind a small letter its
name. -/
def aliases : String :=
  ":0aNUL:0aNULL:1aSOH:1aSTART OF HEADING:2aSTART OF TEXT:2aSTX:3aEND OF TEXT:3aETX
:4aEND OF TRANSMISSION:4aEOT:5aENQ:5aENQUIRY:6aACK:6aACKNOWLEDGE:7aALERT:7aBEL:8aBACKSPACE:8aBS
:9aCHARACTER TABULATION:9aHORIZONTAL TABULATION:9aHT:9aTAB:AaEND OF LINE:AaEOL:AaLF:AaLINE FEED
:AaNEW LINE:AaNL:BaLINE TABULATION:BaVERTICAL TABULATION:BaVT:CaFF:CaFORM FEED:DaCARRIAGE RETURN
:DaCR:EaLOCKING-SHIFT ONE:EaSHIFT OUT:EaSO:FaLOCKING-SHIFT ZERO:FaSHIFT IN:FaSI
:10aDATA LINK ESCAPE:10aDLE:11aDC1:11aDEVICE CONTROL ONE:12aDC2:12aDEVICE CONTROL TWO:13aDC3
:13aDEVICE CONTROL THREE:14aDC4:14aDEVICE CONTROL FOUR:15aNAK:15aNEGATIVE ACKNOWLEDGE:16aSYN
:16aSYNCHRONOUS IDLE:17aEND OF TRANSMISSION BLOCK:17aETB:18aCAN:18aCANCEL:19aEND OF MEDIUM:19aEOM
:1AaSUB:1AaSUBSTITUTE:1BaESC:1BaESCAPE:1CaFILE SEPARATOR:1CaFS:1CaINFORMATION SEPARATOR FOUR
:1DaGROUP SEPARATOR:1DaGS:1DaINFORMATION SEPARATOR THREE:1EaINFORMATION SEPARATOR TWO
:1EaRECORD SEPARATOR:1EaRS:1FaINFORMATION SEPARATOR ONE:1FaUNIT SEPARATOR:1FaUS:20aSP:7FaDEL
:7FaDELETE:80aPAD:80aPADDING CHARACTER:81aHIGH OCTET PRESET:81aHOP:82aBPH:82aBREAK PERMITTED HERE
:83aNBH:83aNO BREAK HERE:84aIND:84aINDEX:85aNEL:85aNEXT LINE:86aSSA:86aSTART OF SELECTED AREA
:87aEND OF SELECTED AREA:87aESA:88aCHARACTER TABULATION SET:88aHORIZONTAL TABULATION SET:88aHTS
:89aCHARACTER TABULATION WITH JUSTIFICATION:89aHORIZONTAL TABULATION WITH JUSTIFICATION:89aHTJ
:8AaLINE TABULATION SET:8AaVERTICAL TABULATION SET:8AaVTS:8BaPARTIAL LINE DOWN
:8BaPARTIAL LINE FORWARD:8BaPLD:8CaPARTIAL LINE BACKWARD:8CaPARTIAL LINE UP:8CaPLU
:8DaREVERSE INDEX:8DaREVERSE LINE FEED:8DaRI:8EaSINGLE SHIFT TWO:8EaSINGLE-SHIFT-2:8EaSS2
:8FaSINGLE SHIFT THREE:8FaSINGLE-SHIFT-3:8FaSS3:90aDCS:90aDEVICE CONTROL STRING:91aPRIVATE USE ONE
:91aPRIVATE USE-1:91aPU1:92aPRIVATE USE TWO:92aPRIVATE USE-2:92aPU2:93aSET TRANSMIT STATE:93aSTS
:94aCANCEL CHARACTER:94aCCH:95aMESSAGE WAITING:95aMW:96aSPA:96aSTART OF GUARDED AREA
:96aSTART OF PROTECTED AREA:97aEND OF GUARDED AREA:97aEND OF PROTECTED AREA:97aEPA:98aSOS
:98aSTART OF STRING:99aSGC:99aSINGLE GRAPHIC CHARACTER INTRODUCER:9AaSCI
:9AaSINGLE CHARACTER INTRODUCER:9BaCONTROL SEQUENCE INTRODUCER:9BaCSI:9CaST:9CaSTRING TERMINATOR
:9DaOPERATING SYSTEM COMMAND:9DaOSC:9EaPM:9EaPRIVACY MESSAGE:9FaAPC:9FaAPPLICATION PROGRAM COMMAND
:A0aNBSP:ADaSHY:1A2aLATIN CAPITAL LETTER GHA:1A3aLATIN SMALL LETTER GHA:34FaCGJ:61CaALM
:709aSYRIAC SUBLINEAR COLON SKEWED LEFT:CDEaKANNADA LETTER LLLA:E9DaLAO LETTER FO FON
:E9FaLAO LETTER FO FAY:EA3aLAO LETTER RO:EA5aLAO LETTER LO:FD0aTIBETAN MARK BKA- SHOG GI MGO RGYAN
:11ECaHANGUL JONGSEONG YESIEUNG-KIYEOK:11EDaHANGUL JONGSEONG YESIEUNG-SSANGKIYEOK
:11EEaHANGUL JONGSEONG SSANGYESIEUNG:11EFaHANGUL JONGSEONG YESIEUNG-KHIEUKH:180BaFVS1:180CaFVS2
:180DaFVS3:180EaMVS:180FaFVS4:200BaZWSP:200CaZWNJ:200DaZWJ:200EaLRM:200FaRLM:202AaLRE:202BaRLE
:202CaPDF:202DaLRO:202EaRLO:202FaNNBSP:205FaMMSP:2060aWJ:2066aLRI:2067aRLI:2068aFSI:2069aPDI
:2118aWEIERSTRASS ELLIPTIC FUNCTION:2448aMICR ON US SYMBOL:2449aMICR DASH SYMBOL
:2B7AaLEFTWARDS TRIANGLE-HEADED ARROW WITH DOUBLE VERTICAL STROKE
:2B7CaRIGHTWARDS TRIANGLE-HEADED ARROW WITH DOUBLE VERTICAL STROKE:A015aYI SYLLABLE ITERATION MARK
:AA6EaMYANMAR LETTER KHAMTI LLA:FE18aPRESENTATION FORM FOR VERTICAL RIGHT WHITE LENTICULAR BRACKET
:FEFFaBOM:FEFFaBYTE ORDER MARK:FEFFaZWNBSP:122D4aCUNEIFORM SIGN NU11 TENU
:122D5aCUNEIFORM SIGN NU11 OVER NU11 BUR OVER BUR:16E56aMEDEFAIDRIN CAPITAL LETTER H
:16E57aMEDEFAIDRIN CAPITAL LETTER NG:16E76aMEDEFAIDRIN SMALL LETTER H
:16E77aMEDEFAIDRIN SMALL LETTER NG:1B001aHENTAIGANA LETTER E-1
:1D0C5aBYZANTINE MUSICAL SYMBOL FTHORA SKLIRON CHROMA VASIS"

end TicketMigration.CharacterName
