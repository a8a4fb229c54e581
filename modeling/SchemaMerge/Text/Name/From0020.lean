import SchemaMerge.Text.Name.Run

namespace SchemaMerge.Text

def namesFrom0020 : List NameRun :=
  [⟨0x0020, ["aSPACEaEXCLAMATION MARKaQUOTATION MARKaNUMBER SIGNaDOLLAR SIGNaPERCENT SIGN",
     "aAMPERSANDaAPOSTROPHEaLEFT PARENTHESISaRIGHT PARENTHESISaASTERISKaPLUS SIGNaCOMMA",
     "aHYPHEN-MINUSaFULL STOPaSOLIDUSaDIGIT ZERObONEbTWObTHREEbFOURbFIVEbSIXbSEVENbEIGHTbNINE",
     "aCOLONaSEMICOLONaLESS-THAN SIGNaEQUALS SIGNaGREATER-THAN SIGNaQUESTION MARKaCOMMERCIAL AT",
     "aLATIN CAPITAL LETTER AdBdCdDdEdFdGdHdIdJdKdLdMdNdOdPdQdRdSdTdUdVdWdXdYdZaLEFT SQUARE ",
     "BRACKETaREVERSE SOLIDUSaRIGHT SQUARE BRACKETaCIRCUMFLEX ACCENTaLOW LINEaGRAVE ACCENT",
     "aLATIN SMALL LETTER AdBdCdDdEdFdGdHdIdJdKdLdMdNdOdPdQdRdSdTdUdVdWdXdYdZaLEFT CURLY ",
     "BRACKETaVERTICAL LINEaRIGHT CURLY BRACKETaTILDE"]⟩,
   ⟨0x00a0, ["aNO-BREAK SPACEaINVERTED EXCLAMATION MARKaCENT SIGNaPOUND SIGNaCURRENCY SIGNaYEN ",
     "SIGNaBROKEN BARaSECTION SIGNaDIAERESISaCOPY",
     "RIGHT SIGNaFEMININE ORDINAL INDICATORaLEFT-POINTING DOUBLE ANGLE QUOTATION MARKaNOT SIGN",
     "aSOFT HYPHENaREGISTERED SIGNaMACRONaDEGREE SIGNaPLUS-MINUS SIGNaSUPERSCRIPT TWObTHREE",
     "aACUTE ACCENTaMICRO SIGNaPILCROW SIGNaMIDDLE DOTaCEDILLAaSUPERSCRIPT ONEaMASCULINE ",
     "ORDINAL INDICATORaRIGHT-POINTING DOUBLE ANGLE QUOTATION MARKaVULGAR FRACTION ONE QUARTER",
     "dHALFcTHREE QUARTERSaINVERTED QUESTION MARKaLATIN CAPITAL LETTER A WITH GRAVEfACUTE",
     "fCIRCUMFLEXfTILDEfDIAERESISfRING ABOVEdAEdC WITH CEDILLAdE WITH GRAVEfACUTEfCIRCUMFLEX",
     "fDIAERESISdI WITH GRAVEfACUTEfCIRCUMFLEXfDIAERESISdETHdN WITH TILDEdO WITH GRAVEfACUTE",
     "fCIRCUMFLEXfTILDEfDIAERESISaMULTIPLICATION SIGNaLATIN CAPITAL LETTER O WITH STROKEdU ",
     "WITH GRAVEfACUTEfCIRCUMFLEXfDIAERESISdY WITH ACUTEdTHORNbSMALL LETTER SHARP SdA WITH ",
     "GRAVEfACUTEfCIRCUMFLEXfTILDEfDIAERESISfRING ABOVEdAEdC WITH CEDILLAdE WITH GRAVEfACUTE",
     "fCIRCUMFLEXfDIAERESISdI WITH GRAVEfACUTEfCIRCUMFLEXfDIAERESISdETHdN WITH TILDEdO WITH ",
     "GRAVEfACUTEfCIRCUMFLEXfTILDEfDIAERESISaDIVISION SIGNaLATIN SMALL LETTER O WITH STROKEdU ",
     "WITH GRAVEfACUTEfCIRCUMFLEXfDIAERESISdY WITH ACUTEdTHORNdY WITH DIAERESISbCAPITAL LETTER ",
     "A WITH MACRONbSMALL LETTER A WITH MACRONbCAPITAL LETTER A WITH BREVEbSMALL LETTER A WITH ",
     "BREVEbCAPITAL LETTER A WITH OGONEKbSMALL LETTER A WITH OGONEKbCAPITAL LETTER C WITH ACUTE",
     "bSMALL LETTER C WITH ACUTEbCAPITAL LETTER C WITH CIRCUMFLEXbSMALL LETTER C WITH ",
     "CIRCUMFLEXbCAPITAL LETTER C WITH DOT ABOVEbSMALL LETTER C WITH DOT ABOVEbCAPITAL LETTER ",
     "C WITH CARONbSMALL LETTER C WITH CARONbCAPITAL LETTER D WITH CARONbSMALL LETTER D WITH ",
     "CARONbCAPITAL LETTER D WITH STROKEbSMALL LETTER D WITH STROKEbCAPITAL LETTER E WITH ",
     "MACRONbSMALL LETTER E WITH MACRONbCAPITAL LETTER E WITH BREVEbSMALL LETTER E WITH BREVE",
     "bCAPITAL LETTER E WITH DOT ABOVEbSMALL LETTER E WITH DOT ABOVEbCAPITAL LETTER E WITH ",
     "OGONEKbSMALL LETTER E WITH OGONEKbCAPITAL LETTER E WITH CARONbSMALL LETTER E WITH CARON",
     "bCAPITAL LETTER G WITH CIRCUMFLEXbSMALL LETTER G WITH CIRCUMFLEXbCAPITAL LETTER G WITH ",
     "BREVEbSMALL LETTER G WITH BREVEbCAPITAL LETTER G WITH DOT ABOVEbSMALL LETTER G WITH DOT ",
     "ABOVEbCAPITAL LETTER G WITH CEDILLAbSMALL LETTER G WITH CEDILLAbCAPITAL LETTER H WITH ",
     "CIRCUMFLEXbSMALL LETTER H WITH CIRCUMFLEXbCAPITAL LETTER H WITH STROKEbSMALL LETTER H ",
     "WITH STROKEbCAPITAL LETTER I WITH TILDEbSMALL LETTER I WITH TILDEbCAPITAL LETTER I WITH ",
     "MACRONbSMALL LETTER I WITH MACRONbCAPITAL LETTER I WITH BREVEbSMALL LETTER I WITH BREVE",
     "bCAPITAL LETTER I WITH OGONEKbSMALL LETTER I WITH OGONEKbCAPITAL LETTER I WITH DOT ABOVE",
     "bSMALL LETTER DOTLESS IbCAPITAL LIGATURE IJbSMALL LIGATURE IJbCAPITAL LETTER J WITH ",
     "CIRCUMFLEXbSMALL LETTER J WITH CIRCUMFLEXbCAPITAL LETTER K WITH CEDILLAbSMALL LETTER K ",
     "WITH CEDILLAdKRAbCAPITAL LETTER L WITH ACUTEbSMALL LETTER L WITH ACUTEbCAPITAL LETTER L ",
     "WITH CEDILLAbSMALL LETTER L WITH CEDILLAbCAPITAL LETTER L WITH CARONbSMALL LETTER L WITH ",
     "CARONbCAPITAL LETTER L WITH MIDDLE DOTbSMALL LETTER L WITH MIDDLE DOTbCAPITAL LETTER L ",
     "WITH STROKEbSMALL LETTER L WITH STROKEbCAPITAL LETTER N WITH ACUTEbSMALL LETTER N WITH ",
     "ACUTEbCAPITAL LETTER N WITH CEDILLAbSMALL LETTER N WITH CEDILLAbCAPITAL LETTER N WITH ",
     "CARONbSMALL LETTER N WITH CARONePRECEDED BY APOSTROPHEbCAPITAL LETTER ENGbSMALL LETTER ",
     "ENGbCAPITAL LETTER O WITH MACRONbSMALL LETTER O WITH MACRONbCAPITAL LETTER O WITH BREVE",
     "bSMALL LETTER O WITH BREVEbCAPITAL LETTER O WITH DOUBLE ACUTEbSMALL LETTER O WITH DOUBLE ",
     "ACUTEbCAPITAL LIGATURE OEbSMALL LIGATURE OEbCAPITAL LETTER R WITH ACUTEbSMALL LETTER R ",
     "WITH ACUTEbCAPITAL LETTER R WITH CEDILLAbSMALL LETTER R WITH CEDILLAbCAPITAL LETTER R ",
     "WITH CARONbSMALL LETTER R WITH CARONbCAPITAL LETTER S WITH ACUTEbSMALL LETTER S WITH ",
     "ACUTEbCAPITAL LETTER S WITH CIRCUMFLEXbSMALL LETTER S WITH CIRCUMFLEXbCAPITAL LETTER S ",
     "WITH CEDILLAbSMALL LETTER S WITH CEDILLAbCAPITAL LETTER S WITH CARONbSMALL LETTER S WITH ",
     "CARONbCAPITAL LETTER T WITH CEDILLAbSMALL LETTER T WITH CEDILLAbCAPITAL LETTER T WITH ",
     "CARONbSMALL LETTER T WITH CARONbCAPITAL LETTER T WITH STROKEbSMALL LETTER T WITH STROKE",
     "bCAPITAL LETTER U WITH TILDEbSMALL LETTER U WITH TILDEbCAPITAL LETTER U WITH MACRON",
     "bSMALL LETTER U WITH MACRONbCAPITAL LETTER U WITH BREVEbSMALL LETTER U WITH BREVE",
     "bCAPITAL LETTER U WITH RING ABOVEbSMALL LETTER U WITH RING ABOVEbCAPITAL LETTER U WITH ",
     "DOUBLE ACUTEbSMALL LETTER U WITH DOUBLE ACUTEbCAPITAL LETTER U WITH OGONEKbSMALL LETTER ",
     "U WITH OGONEKbCAPITAL LETTER W WITH CIRCUMFLEXbSMALL LETTER W WITH CIRCUMFLEXbCAPITAL ",
     "LETTER Y WITH CIRCUMFLEXbSMALL LETTER Y WITH CIRCUMFLEXbCAPITAL LETTER Y WITH DIAERESIS",
     "dZ WITH ACUTEbSMALL LETTER Z WITH ACUTEbCAPITAL LETTER Z WITH DOT ABOVEbSMALL LETTER Z ",
     "WITH DOT ABOVEbCAPITAL LETTER Z WITH CARONbSMALL LETTER Z WITH CARONdLONG SdB WITH STROKE",
     "bCAPITAL LETTER B WITH HOOKfTOPBARbSMALL LETTER B WITH TOPBARbCAPITAL LETTER TONE SIX",
     "bSMALL LETTER TONE SIXbCAPITAL LETTER OPEN OdC WITH HOOKbSMALL LETTER C WITH HOOK",
     "bCAPITAL LETTER AFRICAN DdD WITH HOOKfTOPBARbSMALL LETTER D WITH TOPBARdTURNED DELTA",
     "bCAPITAL LETTER REVERSED EdSCHWAdOPEN EdF WITH HOOKbSMALL LETTER F WITH HOOKbCAPITAL ",
     "LETTER G WITH HOOKdGAMMAbSMALL LETTER HVbCAPITAL LETTER IOTAdI WITH STROKEdK WITH HOOK",
     "bSMALL LETTER K WITH HOOKdL WITH BARdLAMBDA WITH STROKEbCAPITAL LETTER TURNED MdN WITH ",
     "LEFT HOOKbSMALL LETTER N WITH LONG RIGHT LEGbCAPITAL LETTER O WITH MIDDLE TILDEfHORN",
     "bSMALL LETTER O WITH HORNbCAPITAL LETTER OIbSMALL LETTER OIbCAPITAL LETTER P WITH HOOK",
     "bSMALL LETTER P WITH HOOKbLETTER YRbCAPITAL LETTER TONE TWObSMALL LETTER TONE TWO",
     "bCAPITAL LETTER ESHbLETTER REVERSED ESH LOOPbSMALL LETTER T WITH PALATAL HOOKbCAPITAL ",
     "LETTER T WITH HOOKbSMALL LETTER T WITH HOOKbCAPITAL LETTER T WITH RETROFLEX HOOKdU WITH ",
     "HORNbSMALL LETTER U WITH HORNbCAPITAL LETTER UPSILONdV WITH HOOKdY WITH HOOKbSMALL ",
     "LETTER Y WITH HOOKbCAPITAL LETTER Z WITH STROKEbSMALL LETTER Z WITH STROKEbCAPITAL ",
     "LETTER EZHdEZH REVERSEDbSMALL LETTER EZH REVERSEDeWITH TAILbLETTER TWO WITH STROKE",
     "bCAPITAL LETTER TONE FIVEbSMALL LETTER TONE FIVEbLETTER INVERTED GLOTTAL STOP WITH STROKE",
     "cWYNNcDENTAL CLICKcLATERAL CLICKcALVEOLAR CLICKcRETROFLEX CLICKbCAPITAL LETTER DZ WITH ",
     "CARONdD WITH SMALL LETTER Z WITH CARONbSMALL LETTER DZ WITH CARONbCAPITAL LETTER LJdL ",
     "WITH SMALL LETTER JbSMALL LETTER LJbCAPITAL LETTER NJdN WITH SMALL LETTER JbSMALL LETTER ",
     "NJbCAPITAL LETTER A WITH CARONbSMALL LETTER A WITH CARONbCAPITAL LETTER I WITH CARON",
     "bSMALL LETTER I WITH CARONbCAPITAL LETTER O WITH CARONbSMALL LETTER O WITH CARONbCAPITAL ",
     "LETTER U WITH CARONbSMALL LETTER U WITH CARONbCAPITAL LETTER U WITH DIAERESIS AND MACRON",
     "bSMALL LETTER U WITH DIAERESIS AND MACRONbCAPITAL LETTER U WITH DIAERESIS AND ACUTE",
     "bSMALL LETTER U WITH DIAERESIS AND ACUTEbCAPITAL LETTER U WITH DIAERESIS AND CARONbSMALL ",
     "LETTER U WITH DIAERESIS AND CARONbCAPITAL LETTER U WITH DIAERESIS AND GRAVEbSMALL LETTER ",
     "U WITH DIAERESIS AND GRAVEdTURNED EbCAPITAL LETTER A WITH DIAERESIS AND MACRONbSMALL ",
     "LETTER A WITH DIAERESIS AND MACRONbCAPITAL LETTER A WITH DOT ABOVE AND MACRONbSMALL ",
     "LETTER A WITH DOT ABOVE AND MACRONbCAPITAL LETTER AE WITH MACRONbSMALL LETTER AE WITH ",
     "MACRONbCAPITAL LETTER G WITH STROKEbSMALL LETTER G WITH STROKEbCAPITAL LETTER G WITH ",
     "CARONbSMALL LETTER G WITH CARONbCAPITAL LETTER K WITH CARONbSMALL LETTER K WITH CARON",
     "bCAPITAL LETTER O WITH OGONEKbSMALL LETTER O WITH OGONEKbCAPITAL LETTER O WITH OGONEK ",
     "AND MACRONbSMALL LETTER O WITH OGONEK AND MACRONbCAPITAL LETTER EZH WITH CARONbSMALL ",
     "LETTER EZH WITH CARONdJ WITH CARONbCAPITAL LETTER DZdD WITH SMALL LETTER ZbSMALL LETTER ",
     "DZbCAPITAL LETTER G WITH ACUTEbSMALL LETTER G WITH ACUTEbCAPITAL LETTER HWAIRdWYNNdN ",
     "WITH GRAVEbSMALL LETTER N WITH GRAVEbCAPITAL LETTER A WITH RING ABOVE AND ACUTEbSMALL ",
     "LETTER A WITH RING ABOVE AND ACUTEbCAPITAL LETTER AE WITH ACUTEbSMALL LETTER AE WITH ",
     "ACUTEbCAPITAL LETTER O WITH STROKE AND ACUTEbSMALL LETTER O WITH STROKE AND ACUTE",
     "bCAPITAL LETTER A WITH DOUBLE GRAVEbSMALL LETTER A WITH DOUBLE GRAVEbCAPITAL LETTER A ",
     "WITH INVERTED BREVEbSMALL LETTER A WITH INVERTED BREVEbCAPITAL LETTER E WITH DOUBLE GRAVE",
     "bSMALL LETTER E WITH DOUBLE GRAVEbCAPITAL LETTER E WITH INVERTED BREVEbSMALL LETTER E ",
     "WITH INVERTED BREVEbCAPITAL LETTER I WITH DOUBLE GRAVEbSMALL LETTER I WITH DOUBLE GRAVE",
     "bCAPITAL LETTER I WITH INVERTED BREVEbSMALL LETTER I WITH INVERTED BREVEbCAPITAL LETTER ",
     "O WITH DOUBLE GRAVEbSMALL LETTER O WITH DOUBLE GRAVEbCAPITAL LETTER O WITH INVERTED BREVE",
     "bSMALL LETTER O WITH INVERTED BREVEbCAPITAL LETTER R WITH DOUBLE GRAVEbSMALL LETTER R ",
     "WITH DOUBLE GRAVEbCAPITAL LETTER R WITH INVERTED BREVEbSMALL LETTER R WITH INVERTED BREVE",
     "bCAPITAL LETTER U WITH DOUBLE GRAVEbSMALL LETTER U WITH DOUBLE GRAVEbCAPITAL LETTER U ",
     "WITH INVERTED BREVEbSMALL LETTER U WITH INVERTED BREVEbCAPITAL LETTER S WITH COMMA BELOW",
     "bSMALL LETTER S WITH COMMA BELOWbCAPITAL LETTER T WITH COMMA BELOWbSMALL LETTER T WITH ",
     "COMMA BELOWbCAPITAL LETTER YOGHbSMALL LETTER YOGHbCAPITAL LETTER H WITH CARONbSMALL ",
     "LETTER H WITH CARONbCAPITAL LETTER N WITH LONG RIGHT LEGbSMALL LETTER D WITH CURL",
     "bCAPITAL LETTER OUbSMALL LETTER OUbCAPITAL LETTER Z WITH HOOKbSMALL LETTER Z WITH HOOK",
     "bCAPITAL LETTER A WITH DOT ABOVEbSMALL LETTER A WITH DOT ABOVEbCAPITAL LETTER E WITH ",
     "CEDILLAbSMALL LETTER E WITH CEDILLAbCAPITAL LETTER O WITH DIAERESIS AND MACRONbSMALL ",
     "LETTER O WITH DIAERESIS AND MACRONbCAPITAL LETTER O WITH TILDE AND MACRONbSMALL LETTER O ",
     "WITH TILDE AND MACRONbCAPITAL LETTER O WITH DOT ABOVEbSMALL LETTER O WITH DOT ABOVE",
     "bCAPITAL LETTER O WITH DOT ABOVE AND MACRONbSMALL LETTER O WITH DOT ABOVE AND MACRON",
     "bCAPITAL LETTER Y WITH MACRONbSMALL LETTER Y WITH MACRONdL WITH CURLdN WITH CURLdT WITH ",
     "CURLdDOTLESS JdDB DIGRAPHdQP DIGRAPHbCAPITAL LETTER A WITH STROKEdC WITH STROKEbSMALL ",
     "LETTER C WITH STROKEbCAPITAL LETTER L WITH BARdT WITH DIAGONAL STROKEbSMALL LETTER S ",
     "WITH SWASH TAILdZ WITH SWASH TAILbCAPITAL LETTER GLOTTAL STOPbSMALL LETTER GLOTTAL STOP",
     "bCAPITAL LETTER B WITH STROKEdU BARdTURNED VdE WITH STROKEbSMALL LETTER E WITH STROKE",
     "bCAPITAL LETTER J WITH STROKEbSMALL LETTER J WITH STROKEbCAPITAL LETTER SMALL Q WITH ",
     "HOOK TAILbSMALL LETTER Q WITH HOOK TAILbCAPITAL LETTER R WITH STROKEbSMALL LETTER R WITH ",
     "STROKEbCAPITAL LETTER Y WITH STROKEbSMALL LETTER Y WITH STROKEdTURNED AdALPHAdTURNED ",
     "ALPHAdB WITH HOOKdOPEN OdC WITH CURLdD WITH TAILfHOOKdREVERSED EdSCHWAdSCHWA WITH HOOK",
     "dOPEN EdREVERSED OPEN EfE WITH HOOKdCLOSED REVERSED OPEN EdDOTLESS J WITH STROKEdG WITH ",
     "HOOKdSCRIPT GbLETTER SMALL CAPITAL GbSMALL LETTER GAMMAdRAMS HORNdTURNED HdH WITH HOOK",
     "dHENG WITH HOOKdI WITH STROKEdIOTAbLETTER SMALL CAPITAL IbSMALL LETTER L WITH MIDDLE ",
     "TILDEfBELTfRETROFLEX HOOKdLEZHdTURNED MeM WITH LONG LEGdM WITH HOOKdN WITH LEFT HOOK",
     "fRETROFLEX HOOKbLETTER SMALL CAPITAL NbSMALL LETTER BARRED ObLETTER SMALL CAPITAL OE",
     "bSMALL LETTER CLOSED OMEGAdPHIdTURNED ReR WITH LONG LEGgHOOKdR WITH LONG LEGfTAIL",
     "fFISHHOOKdREVERSED R WITH FISHHOOKbLETTER SMALL CAPITAL ReINVERTED RbSMALL LETTER S WITH ",
     "HOOKdESHdDOTLESS J WITH STROKE AND HOOKdSQUAT REVERSED ESHdESH WITH CURLdTURNED TdT WITH ",
     "RETROFLEX HOOKdU BARdUPSILONdV WITH HOOKdTURNED VeWeYbLETTER SMALL CAPITAL YbSMALL ",
     "LETTER Z WITH RETROFLEX HOOKfCURLdEZHdEZH WITH CURLbLETTER GLOTTAL STOPcPHARYNGEAL ",
     "VOICED FRICATIVEcINVERTED GLOTTAL STOPcSTRETCHED CcBILABIAL CLICKcSMALL CAPITAL BbSMALL ",
     "LETTER CLOSED OPEN EbLETTER SMALL CAPITAL G WITH HOOKeHbSMALL LETTER J WITH CROSSED-TAIL",
     "dTURNED KbLETTER SMALL CAPITAL LbSMALL LETTER Q WITH HOOKbLETTER GLOTTAL STOP WITH STROKE",
     "cREVERSED GLOTTAL STOP WITH STROKEbSMALL LETTER DZ DIGRAPHdDEZH DIGRAPHdDZ DIGRAPH WITH ",
     "CURLdTS DIGRAPHdTESH DIGRAPHdTC DIGRAPH WITH CURLdFENG DIGRAPHdLS DIGRAPHdLZ DIGRAPH",
     "bLETTER BILABIAL PERCUSSIVEcBIDENTAL PERCUSSIVEbSMALL LETTER TURNED H WITH FISHHOOK",
     "gFISHHOOK AND TAILaMODIFIER LETTER SMALL HdH WITH HOOKdJdRdTURNED ReR WITH HOOKdCAPITAL ",
     "INVERTED RdWdYcPRIMEcDOUBLE PRIMEcTURNED COMMAcAPOSTROPHEcREVERSED COMMAcRIGHT HALF RING",
     "cLEFT HALF RINGcGLOTTAL STOPcREVERSED GLOTTAL STOPcLEFT ARROWHEADcRIGHT ARROWHEADcUP ",
     "ARROWHEADcDOWN ARROWHEADcCIRCUMFLEX ACCENTaCARONaMODIFIER LETTER VERTICAL LINEcMACRON",
     "cACUTE ACCENTcGRAVE ACCENTcLOW VERTICAL LINEdMACRONdGRAVE ACCENTdACUTE ACCENTcTRIANGULAR ",
     "COLONcHALF TRIANGULAR COLONcCENTRED RIGHT HALF RINGdLEFT HALF RINGcUP TACKcDOWN TACK",
     "cPLUS SIGNcMINUS SIGNaBREVEaDOT ABOVEaRING ABOVEaOGONEKaSMALL TILDEaDOUBLE ACUTE ACCENT",
     "aMODIFIER LETTER RHOTIC HOOKcCROSS ACCENTcSMALL GAMMAdLdSdXdREVERSED GLOTTAL STOP",
     "cEXTRA-HIGH TONE BARcHIGH TONE BARcMID TONE BARcLOW TONE BARcEXTRA-LOW TONE BARcYIN ",
     "DEPARTING TONE MARKcYANG DEPARTING TONE MARKcVOICINGcUNASPIRATEDcDOUBLE APOSTROPHEcLOW ",
     "DOWN ARROWHEADdUP ARROWHEADdLEFT ARROWHEADdRIGHT ARROWHEADdRINGcMIDDLE GRAVE ACCENT",
     "dDOUBLE GRAVE ACCENTeACUTE ACCENTcLOW TILDEcRAISED COLONcBEGIN HIGH TONEcEND HIGH TONE",
     "cBEGIN LOW TONEcEND LOW TONEcSHELFcOPEN SHELFcLOW LEFT ARROWaCOMBINING GRAVE ACCENT",
     "bACUTE ACCENTbCIRCUMFLEX ACCENTbTILDEbMACRONbOVERLINEbBREVEbDOT ABOVEbDIAERESISbHOOK ",
     "ABOVEbRING ABOVEbDOUBLE ACUTE ACCENTbCARONbVERTICAL LINE ABOVEbDOUBLE VERTICAL LINE ABOVE",
     "cGRAVE ACCENTbCANDRABINDUbINVERTED BREVEbTURNED COMMA ABOVEbCOMMA ABOVEbREVERSED COMMA ",
     "ABOVEbCOMMA ABOVE RIGHTbGRAVE ACCENT BELOWbACUTE ACCENT BELOWbLEFT TACK BELOWbRIGHT TACK ",
     "BELOWbLEFT ANGLE ABOVEbHORNbLEFT HALF RING BELOWbUP TACK BELOWbDOWN TACK BELOWbPLUS SIGN ",
     "BELOWbMINUS SIGN BELOWbPALATALIZED HOOK BELOWbRETROFLEX HOOK BELOWbDOT BELOWbDIAERESIS ",
     "BELOWbRING BELOWbCOMMA BELOWbCEDILLAbOGONEKbVERTICAL LINE BELOWbBRIDGE BELOWbINVERTED ",
     "DOUBLE ARCH BELOWbCARON BELOWbCIRCUMFLEX ACCENT BELOWbBREVE BELOWbINVERTED BREVE BELOW",
     "bTILDE BELOWbMACRON BELOWbLOW LINEbDOUBLE LOW LINEbTILDE OVERLAYbSHORT STROKE OVERLAY",
     "bLONG STROKE OVERLAYbSHORT SOLIDUS OVERLAYbLONG SOLIDUS OVERLAYbRIGHT HALF RING BELOW",
     "bINVERTED BRIDGE BELOWbSQUARE BELOWbSEAGULL BELOWbX ABOVEbVERTICAL TILDEbDOUBLE OVERLINE",
     "bGRAVE TONE MARKbACUTE TONE MARKbGREEK PERISPOMENIcKORONIScDIALYTIKA TONOScYPOGEGRAMMENI",
     "bBRIDGE ABOVEbEQUALS SIGN BELOWbDOUBLE VERTICAL LINE BELOWbLEFT ANGLE BELOWbNOT TILDE ",
     "ABOVEbHOMOTHETIC ABOVEbALMOST EQUAL TO ABOVEbLEFT RIGHT ARROW BELOWbUPWARDS ARROW BELOW",
     "bGRAPHEME JOINERbRIGHT ARROWHEAD ABOVEbLEFT HALF RING ABOVEbFERMATAbX BELOWbLEFT ",
     "ARROWHEAD BELOWbRIGHT ARROWHEAD BELOWdAND UP ARROWHEAD BELOWcHALF RING ABOVEbDOT ABOVE ",
     "RIGHTbASTERISK BELOWbDOUBLE RING BELOWbZIGZAG ABOVEbDOUBLE BREVE BELOWcBREVEcMACRON",
     "cMACRON BELOWcTILDEcINVERTED BREVEcRIGHTWARDS ARROW BELOWbLATIN SMALL LETTER AeEeIeOeUeC",
     "eDeHeMeReTeVeXaGREEK CAPITAL LETTER HETAbSMALL LETTER HETAbCAPITAL LETTER ARCHAIC SAMPI",
     "bSMALL LETTER ARCHAIC SAMPIbNUMERAL SIGNbLOWER NUMERAL SIGNbCAPITAL LETTER PAMPHYLIAN ",
     "DIGAMMAbSMALL LETTER PAMPHYLIAN DIGAMMA"]⟩,
   ⟨0x037a, ["aGREEK YPOGEGRAMMENIbSMALL REVERSED LUNATE SIGMA SYMBOLcDOTTED LUNATE SIGMA ",
     "SYMBOLcREVERSED DOTTED LUNATE SIGMA SYMBOLbQUESTION MARKbCAPITAL LETTER YOT"]⟩,
   ⟨0x0384, ["aGREEK TONOSbDIALYTIKA TONOSbCAPITAL LETTER ALPHA WITH TONOSbANO TELEIAbCAPITAL ",
     "LETTER EPSILON WITH TONOSdETA WITH TONOSdIOTA WITH TONOS"]⟩,
   ⟨0x038c, ["aGREEK CAPITAL LETTER OMICRON WITH TONOS"]⟩,
   ⟨0x038e, ["aGREEK CAPITAL LETTER UPSILON WITH TONOSdOMEGA WITH TONOSbSMALL LETTER IOTA WITH ",
     "DIALYTIKA AND TONOSbCAPITAL LETTER ALPHAdBETAdGAMMAdDELTAdEPSILONdZETAdETAdTHETAdIOTA",
     "dKAPPAdLAMDAdMUdNUdXIdOMICRONdPIdRHO"]⟩,
   ⟨0x03a3, ["aGREEK CAPITAL LETTER SIGMAdTAUdUPSILONdPHIdCHIdPSIdOMEGAdIOTA WITH DIALYTIKA",
     "dUPSILON WITH DIALYTIKAbSMALL LETTER ALPHA WITH TONOSdEPSILON WITH TONOSdETA WITH TONOS",
     "dIOTA WITH TONOSdUPSILON WITH DIALYTIKA AND TONOSdALPHAdBETAdGAMMAdDELTAdEPSILONdZETAdETA",
     "dTHETAdIOTAdKAPPAdLAMDAdMUdNUdXIdOMICRONdPIdRHOdFINAL SIGMAdSIGMAdTAUdUPSILONdPHIdCHIdPSI",
     "dOMEGAdIOTA WITH DIALYTIKAdUPSILON WITH DIALYTIKAdOMICRON WITH TONOSdUPSILON WITH TONOS",
     "dOMEGA WITH TONOSbCAPITAL KAI SYMBOLbBETA SYMBOLbTHETA SYMBOLbUPSILON WITH HOOK SYMBOL",
     "dACUTE AND HOOK SYMBOLdDIAERESIS AND HOOK SYMBOLbPHI SYMBOLbPI SYMBOLbKAI SYMBOLbLETTER ",
     "ARCHAIC KOPPAbSMALL LETTER ARCHAIC KOPPAbLETTER STIGMAbSMALL LETTER STIGMAbLETTER DIGAMMA",
     "bSMALL LETTER DIGAMMAbLETTER KOPPAbSMALL LETTER KOPPAbLETTER SAMPIbSMALL LETTER SAMPI",
     "aCOPTIC CAPITAL LETTER SHEIbSMALL LETTER SHEIbCAPITAL LETTER FEIbSMALL LETTER FEI",
     "bCAPITAL LETTER KHEIbSMALL LETTER KHEIbCAPITAL LETTER HORIbSMALL LETTER HORIbCAPITAL ",
     "LETTER GANGIAbSMALL LETTER GANGIAbCAPITAL LETTER SHIMAbSMALL LETTER SHIMAbCAPITAL LETTER ",
     "DEIbSMALL LETTER DEIaGREEK KAPPA SYMBOLbRHO SYMBOLbLUNATE SIGMA SYMBOLbLETTER YOT",
     "bCAPITAL THETA SYMBOLbLUNATE EPSILON SYMBOLbREVERSED LUNATE EPSILON SYMBOLbCAPITAL ",
     "LETTER SHObSMALL LETTER SHObCAPITAL LUNATE SIGMA SYMBOLcLETTER SANbSMALL LETTER SANbRHO ",
     "WITH STROKE SYMBOLbCAPITAL REVERSED LUNATE SIGMA SYMBOLcDOTTED LUNATE SIGMA SYMBOL",
     "cREVERSED DOTTED LUNATE SIGMA SYMBOLaCYRILLIC CAPITAL LETTER IE WITH GRAVEdIOdDJEdGJE",
     "dUKRAINIAN IEdDZEdBYELORUSSIAN-UKRAINIAN IdYIdJEdLJEdNJEdTSHEdKJEdI WITH GRAVEdSHORT U",
     "dDZHEdAdBEdVEdGHEdDEdIEdZHEdZEdIdSHORT IdKAdELdEMdENdOdPEdERdESdTEdUdEFdHAdTSEdCHEdSHA",
     "dSHCHAdHARD SIGNdYERUdSOFT SIGNdEdYUdYAbSMALL LETTER AdBEdVEdGHEdDEdIEdZHEdZEdIdSHORT I",
     "dKAdELdEMdENdOdPEdERdESdTEdUdEFdHAdTSEdCHEdSHAdSHCHAdHARD SIGNdYERUdSOFT SIGNdEdYUdYAdIE ",
     "WITH GRAVEdIOdDJEdGJEdUKRAINIAN IEdDZEdBYELORUSSIAN-UKRAINIAN IdYIdJEdLJEdNJEdTSHEdKJEdI ",
     "WITH GRAVEdSHORT UdDZHEbCAPITAL LETTER OMEGAbSMALL LETTER OMEGAbCAPITAL LETTER YATbSMALL ",
     "LETTER YATbCAPITAL LETTER IOTIFIED EbSMALL LETTER IOTIFIED EbCAPITAL LETTER LITTLE YUS",
     "bSMALL LETTER LITTLE YUSbCAPITAL LETTER IOTIFIED LITTLE YUSbSMALL LETTER IOTIFIED LITTLE ",
     "YUSbCAPITAL LETTER BIG YUSbSMALL LETTER BIG YUSbCAPITAL LETTER IOTIFIED BIG YUSbSMALL ",
     "LETTER IOTIFIED BIG YUSbCAPITAL LETTER KSIbSMALL LETTER KSIbCAPITAL LETTER PSIbSMALL ",
     "LETTER PSIbCAPITAL LETTER FITAbSMALL LETTER FITAbCAPITAL LETTER IZHITSAbSMALL LETTER ",
     "IZHITSAbCAPITAL LETTER IZHITSA WITH DOUBLE GRAVE ACCENTbSMALL LETTER IZHITSA WITH DOUBLE ",
     "GRAVE ACCENTbCAPITAL LETTER UKbSMALL LETTER UKbCAPITAL LETTER ROUND OMEGAbSMALL LETTER ",
     "ROUND OMEGAbCAPITAL LETTER OMEGA WITH TITLObSMALL LETTER OMEGA WITH TITLObCAPITAL LETTER ",
     "OTbSMALL LETTER OTbCAPITAL LETTER KOPPAbSMALL LETTER KOPPAbTHOUSANDS SIGNaCOMBINING ",
     "CYRILLIC TITLOcPALATALIZATIONcDASIA PNEUMATAcPSILI PNEUMATAcPOKRYTIEcHUNDRED THOUSANDS ",
     "SIGNcMILLIONS SIGNaCYRILLIC CAPITAL LETTER SHORT I WITH TAILbSMALL LETTER SHORT I WITH ",
     "TAILbCAPITAL LETTER SEMISOFT SIGNbSMALL LETTER SEMISOFT SIGNbCAPITAL LETTER ER WITH TICK",
     "bSMALL LETTER ER WITH TICKbCAPITAL LETTER GHE WITH UPTURNbSMALL LETTER GHE WITH UPTURN",
     "bCAPITAL LETTER GHE WITH STROKEbSMALL LETTER GHE WITH STROKEbCAPITAL LETTER GHE WITH ",
     "MIDDLE HOOKbSMALL LETTER GHE WITH MIDDLE HOOKbCAPITAL LETTER ZHE WITH DESCENDERbSMALL ",
     "LETTER ZHE WITH DESCENDERbCAPITAL LETTER ZE WITH DESCENDERbSMALL LETTER ZE WITH DESCENDER",
     "bCAPITAL LETTER KA WITH DESCENDERbSMALL LETTER KA WITH DESCENDERbCAPITAL LETTER KA WITH ",
     "VERTICAL STROKEbSMALL LETTER KA WITH VERTICAL STROKEbCAPITAL LETTER KA WITH STROKEbSMALL ",
     "LETTER KA WITH STROKEbCAPITAL LETTER BASHKIR KAbSMALL LETTER BASHKIR KAbCAPITAL LETTER ",
     "EN WITH DESCENDERbSMALL LETTER EN WITH DESCENDERbCAPITAL LIGATURE EN GHEbSMALL LIGATURE ",
     "EN GHEbCAPITAL LETTER PE WITH MIDDLE HOOKbSMALL LETTER PE WITH MIDDLE HOOKbCAPITAL ",
     "LETTER ABKHASIAN HAbSMALL LETTER ABKHASIAN HAbCAPITAL LETTER ES WITH DESCENDERbSMALL ",
     "LETTER ES WITH DESCENDERbCAPITAL LETTER TE WITH DESCENDERbSMALL LETTER TE WITH DESCENDER",
     "bCAPITAL LETTER STRAIGHT UbSMALL LETTER STRAIGHT UbCAPITAL LETTER STRAIGHT U WITH STROKE",
     "bSMALL LETTER STRAIGHT U WITH STROKEbCAPITAL LETTER HA WITH DESCENDERbSMALL LETTER HA ",
     "WITH DESCENDERbCAPITAL LIGATURE TE TSEbSMALL LIGATURE TE TSEbCAPITAL LETTER CHE WITH ",
     "DESCENDERbSMALL LETTER CHE WITH DESCENDERbCAPITAL LETTER CHE WITH VERTICAL STROKEbSMALL ",
     "LETTER CHE WITH VERTICAL STROKEbCAPITAL LETTER SHHAbSMALL LETTER SHHAbCAPITAL LETTER ",
     "ABKHASIAN CHEbSMALL LETTER ABKHASIAN CHEbCAPITAL LETTER ABKHASIAN CHE WITH DESCENDER",
     "bSMALL LETTER ABKHASIAN CHE WITH DESCENDERbLETTER PALOCHKAbCAPITAL LETTER ZHE WITH BREVE",
     "bSMALL LETTER ZHE WITH BREVEbCAPITAL LETTER KA WITH HOOKbSMALL LETTER KA WITH HOOK",
     "bCAPITAL LETTER EL WITH TAILbSMALL LETTER EL WITH TAILbCAPITAL LETTER EN WITH HOOKbSMALL ",
     "LETTER EN WITH HOOKbCAPITAL LETTER EN WITH TAILbSMALL LETTER EN WITH TAILbCAPITAL LETTER ",
     "KHAKASSIAN CHEbSMALL LETTER KHAKASSIAN CHEbCAPITAL LETTER EM WITH TAILbSMALL LETTER EM ",
     "WITH TAILdPALOCHKAbCAPITAL LETTER A WITH BREVEbSMALL LETTER A WITH BREVEbCAPITAL LETTER ",
     "A WITH DIAERESISbSMALL LETTER A WITH DIAERESISbCAPITAL LIGATURE A IEbSMALL LIGATURE A IE",
     "bCAPITAL LETTER IE WITH BREVEbSMALL LETTER IE WITH BREVEbCAPITAL LETTER SCHWAbSMALL ",
     "LETTER SCHWAbCAPITAL LETTER SCHWA WITH DIAERESISbSMALL LETTER SCHWA WITH DIAERESIS",
     "bCAPITAL LETTER ZHE WITH DIAERESISbSMALL LETTER ZHE WITH DIAERESISbCAPITAL LETTER ZE ",
     "WITH DIAERESISbSMALL LETTER ZE WITH DIAERESISbCAPITAL LETTER ABKHASIAN DZEbSMALL LETTER ",
     "ABKHASIAN DZEbCAPITAL LETTER I WITH MACRONbSMALL LETTER I WITH MACRONbCAPITAL LETTER I ",
     "WITH DIAERESISbSMALL LETTER I WITH DIAERESISbCAPITAL LETTER O WITH DIAERESISbSMALL ",
     "LETTER O WITH DIAERESISbCAPITAL LETTER BARRED ObSMALL LETTER BARRED ObCAPITAL LETTER ",
     "BARRED O WITH DIAERESISbSMALL LETTER BARRED O WITH DIAERESISbCAPITAL LETTER E WITH ",
     "DIAERESISbSMALL LETTER E WITH DIAERESISbCAPITAL LETTER U WITH MACRONbSMALL LETTER U WITH ",
     "MACRONbCAPITAL LETTER U WITH DIAERESISbSMALL LETTER U WITH DIAERESISbCAPITAL LETTER U ",
     "WITH DOUBLE ACUTEbSMALL LETTER U WITH DOUBLE ACUTEbCAPITAL LETTER CHE WITH DIAERESIS",
     "bSMALL LETTER CHE WITH DIAERESISbCAPITAL LETTER GHE WITH DESCENDERbSMALL LETTER GHE WITH ",
     "DESCENDERbCAPITAL LETTER YERU WITH DIAERESISbSMALL LETTER YERU WITH DIAERESISbCAPITAL ",
     "LETTER GHE WITH STROKE AND HOOKbSMALL LETTER GHE WITH STROKE AND HOOKbCAPITAL LETTER HA ",
     "WITH HOOKbSMALL LETTER HA WITH HOOKbCAPITAL LETTER HA WITH STROKEbSMALL LETTER HA WITH ",
     "STROKEbCAPITAL LETTER KOMI DEbSMALL LETTER KOMI DEbCAPITAL LETTER KOMI DJEbSMALL LETTER ",
     "KOMI DJEbCAPITAL LETTER KOMI ZJEbSMALL LETTER KOMI ZJEbCAPITAL LETTER KOMI DZJEbSMALL ",
     "LETTER KOMI DZJEbCAPITAL LETTER KOMI LJEbSMALL LETTER KOMI LJEbCAPITAL LETTER KOMI NJE",
     "bSMALL LETTER KOMI NJEbCAPITAL LETTER KOMI SJEbSMALL LETTER KOMI SJEbCAPITAL LETTER KOMI ",
     "TJEbSMALL LETTER KOMI TJEbCAPITAL LETTER REVERSED ZEbSMALL LETTER REVERSED ZEbCAPITAL ",
     "LETTER EL WITH HOOKbSMALL LETTER EL WITH HOOKbCAPITAL LETTER LHAbSMALL LETTER LHA",
     "bCAPITAL LETTER RHAbSMALL LETTER RHAbCAPITAL LETTER YAEbSMALL LETTER YAEbCAPITAL LETTER ",
     "QAbSMALL LETTER QAbCAPITAL LETTER WEbSMALL LETTER WEbCAPITAL LETTER ALEUT KAbSMALL ",
     "LETTER ALEUT KAbCAPITAL LETTER EL WITH MIDDLE HOOKbSMALL LETTER EL WITH MIDDLE HOOK",
     "bCAPITAL LETTER EN WITH MIDDLE HOOKbSMALL LETTER EN WITH MIDDLE HOOKbCAPITAL LETTER PE ",
     "WITH DESCENDERbSMALL LETTER PE WITH DESCENDERbCAPITAL LETTER SHHA WITH DESCENDERbSMALL ",
     "LETTER SHHA WITH DESCENDERbCAPITAL LETTER EN WITH LEFT HOOKbSMALL LETTER EN WITH LEFT ",
     "HOOKbCAPITAL LETTER DZZHEbSMALL LETTER DZZHEbCAPITAL LETTER DCHEbSMALL LETTER DCHE",
     "bCAPITAL LETTER EL WITH DESCENDERbSMALL LETTER EL WITH DESCENDER"]⟩,
   ⟨0x0531, ["aARMENIAN CAPITAL LETTER AYBdBENdGIMdDAdECHdZAdEHdETdTOdZHEdINIdLIWNdXEHdCAdKEN",
     "dHOdJAdGHADdCHEHdMENdYIdNOWdSHAdVOdCHAdPEHdJHEHdRAdSEHdVEWdTIWNdREHdCOdYIWNdPIWRdKEHdOH",
     "dFEH"]⟩,
   ⟨0x0559, ["aARMENIAN MODIFIER LETTER LEFT HALF RINGbAPOSTROPHEbEMPHASIS MARKbEXCLAMATION ",
     "MARKbCOMMAbQUESTION MARKbABBREVIATION MARKbSMALL LETTER TURNED AYBdAYBdBENdGIMdDAdECHdZA",
     "dEHdETdTOdZHEdINIdLIWNdXEHdCAdKENdHOdJAdGHADdCHEHdMENdYIdNOWdSHAdVOdCHAdPEHdJHEHdRAdSEH",
     "dVEWdTIWNdREHdCOdYIWNdPIWRdKEHdOHdFEHcLIGATURE ECH YIWNcLETTER YI WITH STROKEbFULL STOP",
     "bHYPHEN"]⟩,
   ⟨0x058d, ["aRIGHT-FACING ARMENIAN ETERNITY SIGNaLEFT-FACING ARMENIAN ETERNITY SIGNaARMENIAN ",
     "DRAM SIGN"]⟩,
   ⟨0x0591, ["aHEBREW ACCENT ETNAHTAcSEGOLcSHALSHELETcZAQEF QATANdGADOLcTIPEHAcREVIAcZARQA",
     "cPASHTAcYETIVcTEVIRcGERESHcGERESH MUQDAMcGERSHAYIMcQARNEY PARAcTELISHA GEDOLAcPAZER",
     "cATNAH HAFUKHcMUNAHcMAHAPAKHcMERKHAcMERKHA KEFULAcDARGAcQADMAcTELISHA QETANAcYERAH BEN ",
     "YOMOcOLEcILUYcDEHIcZINORbMARK MASORA CIRCLEbPOINT SHEVAcHATAF SEGOLdPATAHdQAMATScHIRIQ",
     "cTSEREcSEGOLcPATAHcQAMATScHOLAMcHOLAM HASER FOR VAVcQUBUTScDAGESH OR MAPIQcMETEG",
     "bPUNCTUATION MAQAFbPOINT RAFEbPUNCTUATION PASEQbPOINT SHIN DOTcSIN DOTbPUNCTUATION SOF ",
     "PASUQbMARK UPPER DOTcLOWER DOTbPUNCTUATION NUN HAFUKHAbPOINT QAMATS QATAN"]⟩,
   ⟨0x05d0, ["aHEBREW LETTER ALEFcBETcGIMELcDALETcHEcVAVcZAYINcHETcTETcYODcFINAL KAFcKAFcLAMED",
     "cFINAL MEMcMEMcFINAL NUNcNUNcSAMEKHcAYINcFINAL PEcPEcFINAL TSADIcTSADIcQOFcRESHcSHINcTAV"]⟩,
   ⟨0x05ef, ["aHEBREW YOD TRIANGLEbLIGATURE YIDDISH DOUBLE VAVdVAV YODdDOUBLE YODbPUNCTUATION ",
     "GERESHcGERSHAYIM"]⟩,
   ⟨0x0600, ["aARABIC NUMBER SIGNbSIGN SANAHbFOOTNOTE MARKERbSIGN SAFHAcSAMVATbNUMBER MARK ",
     "ABOVEaARABIC-INDIC CUBE ROOTbFOURTH ROOTaARABIC RAYaARABIC-INDIC PER MILLE SIGNcTEN ",
     "THOUSAND SIGNaAFGHANI SIGNaARABIC COMMAbDATE SEPARATORbPOETIC VERSE SIGNbSIGN MISRA",
     "cSALLALLAHOU ALAYHE WASSALLAMcALAYHE ASSALLAMcRAHMATULLAH ALAYHEcRADI ALLAHOU ANHU",
     "cTAKHALLUSbSMALL HIGH TAHdLIGATURE ALEF WITH LAM WITH YEHdZAINcFATHAcDAMMAcKASRA",
     "bSEMICOLONbLETTER MARKbEND OF TEXT MARKbTRIPLE DOT PUNCTUATION MARKbQUESTION MARKbLETTER ",
     "KASHMIRI YEHcHAMZAcALEF WITH MADDA ABOVEeHAMZA ABOVEcWAW WITH HAMZA ABOVEcALEF WITH ",
     "HAMZA BELOWcYEH WITH HAMZA ABOVEcALEFcBEHcTEH MARBUTAcTEHcTHEHcJEEMcHAHcKHAHcDALcTHALcREH",
     "cZAINcSEENcSHEENcSADcDADcTAHcZAHcAINcGHAINcKEHEH WITH TWO DOTS ABOVEeTHREE DOTS BELOW",
     "cFARSI YEH WITH INVERTED VfTWO DOTS ABOVEfTHREE DOTS ABOVEbTATWEELbLETTER FEHcQAFcKAFcLAM",
     "cMEEMcNOONcHEHcWAWcALEF MAKSURAcYEHbFATHATANbDAMMATANbKASRATANbFATHAbDAMMAbKASRAbSHADDA",
     "bSUKUNbMADDAH ABOVEbHAMZA ABOVEcBELOWbSUBSCRIPT ALEFbINVERTED DAMMAbMARK NOON GHUNNA",
     "bZWARAKAYbVOWEL SIGN SMALL V ABOVEdINVERTED SMALL V ABOVEdDOT BELOWbREVERSED DAMMAbFATHA ",
     "WITH TWO DOTSbWAVY HAMZA BELOWaARABIC-INDIC DIGIT ZEROcONEcTWOcTHREEcFOURcFIVEcSIXcSEVEN",
     "cEIGHTcNINEaARABIC PERCENT SIGNbDECIMAL SEPARATORbTHOUSANDS SEPARATORbFIVE POINTED STAR",
     "bLETTER DOTLESS BEHdQAFcSUPERSCRIPT ALEFcALEF WASLAdWITH WAVY HAMZA ABOVEgBELOWcHIGH ",
     "HAMZAdHAMZA ALEFeWAWcU WITH HAMZA ABOVEcHIGH HAMZA YEHcTTEHcTTEHEHcBEEHcTEH WITH RING",
     "eTHREE DOTS ABOVE DOWNWARDScPEHcTEHEHcBEHEHcHAH WITH HAMZA ABOVEeTWO DOTS VERTICAL ABOVE",
     "cNYEHcDYEHcHAH WITH THREE DOTS ABOVEcTCHEHcTCHEHEHcDDALcDAL WITH RINGeDOT BELOWfBELOW ",
     "AND SMALL TAHcDAHALcDDAHALcDULcDAL WITH THREE DOTS ABOVE DOWNWARDSeFOUR DOTS ABOVEcRREH",
     "cREH WITH SMALL VeRINGeDOT BELOWeSMALL V BELOWeDOT BELOW AND DOT ABOVEeTWO DOTS ABOVEcJEH",
     "cREH WITH FOUR DOTS ABOVEcSEEN WITH DOT BELOW AND DOT ABOVEeTHREE DOTS BELOWgBELOW AND ",
     "THREE DOTS ABOVEcSAD WITH TWO DOTS BELOWeTHREE DOTS ABOVEcTAH WITH THREE DOTS ABOVEcAIN ",
     "WITH THREE DOTS ABOVEcDOTLESS FEHcFEH WITH DOT MOVED BELOWfBELOWcVEHcFEH WITH THREE DOTS ",
     "BELOWcPEHEHcQAF WITH DOT ABOVEeTHREE DOTS ABOVEcKEHEHcSWASH KAFcKAF WITH RINGeDOT ABOVE",
     "cNGcKAF WITH THREE DOTS BELOWcGAFcGAF WITH RINGcNGOEHcGAF WITH TWO DOTS BELOWcGUEHcGAF ",
     "WITH THREE DOTS ABOVEcLAM WITH SMALL VeDOT ABOVEeTHREE DOTS ABOVEgBELOWcNOON WITH DOT ",
     "BELOWdGHUNNAcRNOONcNOON WITH RINGeTHREE DOTS ABOVEcHEH DOACHASHMEEcTCHEH WITH DOT ABOVE",
     "cHEH WITH YEH ABOVEdGOALdGOAL WITH HAMZA ABOVEcTEH MARBUTA GOALcWAW WITH RINGcKIRGHIZ OE",
     "cOEcUcYUcKIRGHIZ YUcWAW WITH TWO DOTS ABOVEcVEcFARSI YEHcYEH WITH TAILeSMALL VcWAW WITH ",
     "DOT ABOVEcEcYEH WITH THREE DOTS BELOWdBARREEdBARREE WITH HAMZA ABOVEbFULL STOPbLETTER AE",
     "bSMALL HIGH LIGATURE SAD WITH LAM WITH ALEF MAKSURAeQAF WITH LAM WITH ALEF MAKSURAdMEEM ",
     "INITIAL FORMdLAM ALEFdJEEMdTHREE DOTSdSEENbEND OF AYAHbSTART OF RUB EL HIZBbSMALL HIGH ",
     "ROUNDED ZEROdUPRIGHT RECTANGULAR ZEROdDOTLESS HEAD OF KHAHdMEEM ISOLATED FORMcLOW SEEN",
     "cHIGH MADDAcWAWcYEHcHIGH YEHdNOONbPLACE OF SAJDAHbEMPTY CENTRE LOW STOPdHIGH STOP",
     "bROUNDED HIGH STOP WITH FILLED CENTREbSMALL LOW MEEMbLETTER DAL WITH INVERTED VcREH WITH ",
     "INVERTED VaEXTENDED ARABIC-INDIC DIGIT ZEROdONEdTWOdTHREEdFOURdFIVEdSIXdSEVENdEIGHTdNINE",
     "aARABIC LETTER SHEEN WITH DOT BELOWcDAD WITH DOT BELOWcGHAIN WITH DOT BELOWbSIGN SINDHI ",
     "AMPERSANDdPOSTPOSITION MENbLETTER HEH WITH INVERTED VaSYRIAC END OF PARAGRAPH",
     "bSUPRALINEAR FULL STOPbSUBLINEAR FULL STOPbSUPRALINEAR COLONbSUBLINEAR COLONbHORIZONTAL ",
     "COLONbCOLON SKEWED LEFTdRIGHTbSUPRALINEAR COLON SKEWED LEFTbSUBLINEAR COLON SKEWED RIGHT",
     "bCONTRACTIONbHARKLEAN OBELUScMETOBELUScASTERISCUS"]⟩,
   ⟨0x070f, ["aSYRIAC ABBREVIATION MARKbLETTER ALAPHcSUPERSCRIPT ALAPHcBETHcGAMALcGAMAL ",
     "GARSHUNIcDALATHcDOTLESS DALATH RISHcHEcWAWcZAINcHETHcTETHcTETH GARSHUNIcYUDHcYUDH HEcKAPH",
     "cLAMADHcMIMcNUNcSEMKATHcFINAL SEMKATHcEcPEcREVERSED PEcSADHEcQAPHcRISHcSHINcTAWcPERSIAN ",
     "BHETHdGHAMALdDHALATHbPTHAHA ABOVEcBELOWcDOTTEDbZQAPHA ABOVEcBELOWcDOTTEDbRBASA ABOVE",
     "cBELOWbDOTTED ZLAMA HORIZONTALdANGULARbHBASA ABOVEcBELOWbHBASA-ESASA DOTTEDbESASA ABOVE",
     "cBELOWbRWAHAbFEMININE DOTbQUSHSHAYAbRUKKAKHAbTWO VERTICAL DOTS ABOVEeBELOWbTHREE DOTS ",
     "ABOVEdBELOWbOBLIQUE LINE ABOVEdBELOWbMUSICbBARREKH"]⟩,
   ⟨0x074d, ["aSYRIAC LETTER SOGDIAN ZHAINdKHAPHdFEaARABIC LETTER BEH WITH THREE DOTS ",
     "HORIZONTALLY BELOWeDOT BELOW AND THREE DOTS ABOVEeTHREE DOTS POINTING UPWARDS BELOW",
     "iBELOW AND TWO DOTS ABOVEeTWO DOTS BELOW AND DOT ABOVEeINVERTED SMALL V BELOWeSMALL V",
     "cHAH WITH TWO DOTS ABOVEeTHREE DOTS POINTING UPWARDS BELOWcDAL WITH TWO DOTS VERTICALLY ",
     "BELOW AND SMALL TAHeINVERTED SMALL V BELOWcREH WITH STROKEcSEEN WITH FOUR DOTS ABOVEcAIN ",
     "WITH TWO DOTS ABOVEeTHREE DOTS POINTING DOWNWARDS ABOVEeTWO DOTS VERTICALLY ABOVEcFEH ",
     "WITH TWO DOTS BELOWeTHREE DOTS POINTING UPWARDS BELOWcKEHEH WITH DOT ABOVEeTHREE DOTS ",
     "ABOVEgPOINTING UPWARDS BELOWcMEEM WITH DOT ABOVEfBELOWcNOON WITH TWO DOTS BELOWeSMALL TAH",
     "fVcLAM WITH BARcREH WITH TWO DOTS VERTICALLY ABOVEeHAMZA ABOVEcSEEN WITH TWO DOTS ",
     "VERTICALLY ABOVEcHAH WITH SMALL ARABIC LETTER TAH BELOWiAND TWO DOTScSEEN WITH SMALL ",
     "ARABIC LETTER TAH AND TWO DOTScREH WITH SMALL ARABIC LETTER TAH AND TWO DOTScHAH WITH ",
     "SMALL ARABIC LETTER TAH ABOVEcALEF WITH EXTENDED ARABIC-INDIC DIGIT TWO ABOVEhTHREE ABOVE",
     "cFARSI YEH WITH EXTENDED ARABIC-INDIC DIGIT TWO ABOVEiTHREE ABOVEiFOUR BELOWcWAW WITH ",
     "EXTENDED ARABIC-INDIC DIGIT TWO ABOVEhTHREE ABOVEcYEH BARREE WITH EXTENDED ARABIC-INDIC ",
     "DIGIT TWO ABOVEiTHREE ABOVEcHAH WITH EXTENDED ARABIC-INDIC DIGIT FOUR BELOWcSEEN WITH ",
     "EXTENDED ARABIC-INDIC DIGIT FOUR ABOVEeINVERTED VcKAF WITH TWO DOTS ABOVEaTHAANA LETTER ",
     "HAAcSHAVIYANIcNOONUcRAAcBAAcLHAVIYANIcKAAFUcALIFUcVAAVUcMEEMUcFAAFUcDHAALUcTHAAcLAAMU",
     "cGAAFUcGNAVIYANIcSEENUcDAVIYANIcZAVIYANIcTAVIYANIcYAAcPAVIYANIcJAVIYANIcCHAVIYANIcTTAA",
     "cHHAAcKHAAcTHAALUcZAAcSHEENUcSAADHUcDAADHUcTOcZOcAINUcGHAINUcQAAFUcWAAVUbABAFILI",
     "bAABAAFILIbIBIFILIbEEBEEFILIbUBUFILIbOOBOOFILIbEBEFILIbEYBEYFILIbOBOFILIbOABOAFILIbSUKUN",
     "bLETTER NAA"]⟩,
   ⟨0x07c0, ["aNKO DIGIT ZEROcONEcTWOcTHREEcFOURcFIVEcSIXcSEVENcEIGHTcNINEbLETTER AcEEcIcEcUcOO",
     "cOcDAGBASINNAcNcBAcPAcTAcJAcCHAcDAcRAcRRAcSAcGBAcFAcKAcLAcNA WOLOSOcMAcNYAcNAcHAcWAcYA",
     "cNYA WOLOSOcJONA JAdCHAdRAbCOMBINING SHORT HIGH TONEdLOW TONEdRISING TONEcLONG ",
     "DESCENDING TONEdHIGH TONEdLOW TONEdRISING TONEcNASALIZATION MARKcDOUBLE DOT ABOVEbHIGH ",
     "TONE APOSTROPHEbLOW TONE APOSTROPHEbSYMBOL OO DENNENcGBAKURUNENbCOMMAbEXCLAMATION MARK",
     "bLAJANYALAN"]⟩,
   ⟨0x07fd, ["aNKO DANTAYALANbDOROME SIGNbTAMAN SIGNaSAMARITAN LETTER ALAFcBITcGAMANcDALATcIY",
     "cBAAcZENcITcTITcYUTcKAAFcLABATcMIMcNUNcSINGAATcINcFIcTSAADIYcQUFcRISHcSHANcTAAFbMARK IN",
     "cIN-ALAFcOCCLUSIONcDAGESHbMODIFIER LETTER EPENTHETIC YUTbMARK EPENTHETIC YUTbVOWEL SIGN ",
     "LONG EdEdOVERLONG AAdLONG AAdAAdOVERLONG AdLONG AdAbMODIFIER LETTER SHORT AbVOWEL SIGN ",
     "SHORT AdLONG UdUbMODIFIER LETTER IbVOWEL SIGN LONG IdIdOdSUKUNbMARK NEQUDAA"]⟩,
   ⟨0x0830, ["aSAMARITAN PUNCTUATION NEQUDAAcAFSAAQcANGEDcBAUcATMAAUcSHIYYAALAAbABBREVIATION ",
     "MARKbPUNCTUATION MELODIC QITSAcZIQAAcQITSAcZAEFcTURUcARKAANUcSOF MASHFAATcANNAAU"]⟩,
   ⟨0x0840, ["aMANDAIC LETTER HALQAcABcAGcADcAHcUSHENNAcAZcITcATTcAKSAcAKcALcAMcANcAScINcAPcASZ",
     "cAQcARcASHcATcDUSHENNAcKADcAINbAFFRICATION MARKbVOCALIZATION MARKbGEMINATION MARK"]⟩,
   ⟨0x085e, ["aMANDAIC PUNCTUATION"]⟩,
   ⟨0x0860, ["aSYRIAC LETTER MALAYALAM NGAdJAdNYAdTTAdNNAdNNNAdBHAdRAdLLAdLLLAdSSA"]⟩,
   ⟨0x0870, ["aARABIC LETTER ALEF WITH ATTACHED FATHAfTOP RIGHT FATHAeRIGHT MIDDLE STROKEeLEFT ",
     "MIDDLE STROKEeATTACHED KASRAfBOTTOM RIGHT KASRAfROUND DOT ABOVEfRIGHT ROUND DOTfLEFT ",
     "ROUND DOTfROUND DOT BELOWeDOT ABOVEeATTACHED TOP RIGHT FATHA AND DOT ABOVEeRIGHT MIDDLE ",
     "STROKE AND DOT ABOVEeATTACHED BOTTOM RIGHT KASRA AND DOT ABOVEfTOP RIGHT FATHA AND LEFT ",
     "RINGeRIGHT MIDDLE STROKE AND LEFT RINGeATTACHED BOTTOM RIGHT KASRA AND LEFT RINGfRIGHT ",
     "HAMZAfLEFT HAMZAbTATWEEL WITH OVERSTRUCK HAMZAeWAWdTWO DOTS BELOWbLETTER THIN YEH",
     "bBASELINE ROUND DOTbRAISED ROUND DOTbLETTER NOON WITH INVERTED SMALL VcHAH WITH INVERTED ",
     "SMALL V BELOWcTAH WITH DOT BELOWeTHREE DOTS BELOWcKEHEH WITH TWO DOTS VERTICALLY BELOW",
     "bVERTICAL TAIL"]⟩,
   ⟨0x0890, ["aARABIC POUND MARK ABOVEbPIASTRE MARK ABOVE"]⟩,
   ⟨0x0898, ["aARABIC SMALL HIGH WORD AL-JUZcLOW WORD ISHMAAMeIMAALAeTASHEELbMADDA WAAJIB",
     "bSUPERSCRIPT ALEF MOKHASSASbDOUBLED MADDAbHALF MADDA OVER MADDAbLETTER BEH WITH SMALL V ",
     "BELOWeHAMZA ABOVEcJEEM WITH TWO DOTS ABOVEcTAH WITH TWO DOTS ABOVEcFEH WITH DOT BELOW ",
     "AND THREE DOTS ABOVEcQAF WITH DOT BELOWcLAM WITH DOUBLE BARcMEEM WITH THREE DOTS ABOVE",
     "cYEH WITH TWO DOTS BELOW AND HAMZA ABOVEiDOT ABOVEcREH WITH LOOPcWAW WITH DOT WITHIN",
     "cROHINGYA YEHcLOW ALEFcDAL WITH THREE DOTS BELOWcSAD WITH THREE DOTS BELOWcGAF WITH ",
     "INVERTED STROKEcSTRAIGHT WAWcZAIN WITH INVERTED V ABOVEcAIN WITH THREE DOTS BELOWcKAF ",
     "WITH DOT BELOWcQAF WITH DOT BELOW AND NO DOTS ABOVEcBEH WITH SMALL MEEM ABOVEcPEH WITH ",
     "SMALL MEEM ABOVEcTEH WITH SMALL TEH ABOVEcREH WITH SMALL NOON ABOVEcYEH WITH TWO DOTS ",
     "BELOW AND SMALL NOON ABOVEcAFRICAN FEHdQAFdNOONcPEH WITH SMALL VcTEH WITH SMALL VcTTEH ",
     "WITH SMALL VcTCHEH WITH SMALL VcKEHEH WITH SMALL VcGHAIN WITH THREE DOTS ABOVEcAFRICAN ",
     "QAF WITH THREE DOTS ABOVEcJEEM WITH THREE DOTS ABOVEgBELOWcLAM WITH SMALL ARABIC LETTER ",
     "TAH ABOVEcGRAFbSMALL FARSI YEHcHIGH FARSI YEHdYEH BARREE WITH TWO DOTS BELOWdWORD SAHdZAH",
     "bLARGE ROUND DOT ABOVEeBELOWbSUKUN BELOWbLARGE CIRCLE BELOWcROUND DOT INSIDE CIRCLE BELOW",
     "bSMALL LOW WAWcHIGH WORD AR-RUBdSADdAINdQAFdNOON WITH KASRAcLOW NOON WITH KASRAcHIGH ",
     "WORD ATH-THALATHAeAS-SAJDAeAN-NISFeSAKTAeQIFeWAQFAdFOOTNOTE MARKERdSIGN SAFHAbDISPUTED ",
     "END OF AYAHbTURNED DAMMA BELOWbCURLY FATHAcDAMMAcKASRAcFATHATANcDAMMATANcKASRATANbTONE ",
     "ONE DOT ABOVEcTWO DOTS ABOVEcLOOP ABOVEcONE DOT BELOWcTWO DOTS BELOWcLOOP BELOWbOPEN ",
     "FATHATANcDAMMATANcKASRATANbSMALL HIGH WAWbFATHA WITH RINGdDOT ABOVEbKASRA WITH DOT BELOW",
     "bLEFT ARROWHEAD ABOVEbRIGHT ARROWHEAD ABOVEbLEFT ARROWHEAD BELOWbRIGHT ARROWHEAD BELOW",
     "bDOUBLE RIGHT ARROWHEAD ABOVEeABOVE WITH DOTbRIGHT ARROWHEAD ABOVE WITH DOTbDAMMA WITH ",
     "DOTbMARK SIDEWAYS NOON GHUNNAaDEVANAGARI SIGN INVERTED CANDRABINDUcCANDRABINDUcANUSVARA",
     "cVISARGAbLETTER SHORT AcAcAAcIcIIcUcUUcVOCALIC RdLcCANDRA EcSHORT EcEcAIcCANDRA OcSHORT O",
     "cOcAUcKAcKHAcGAcGHAcNGAcCAcCHAcJAcJHAcNYAcTTAcTTHAcDDAcDDHAcNNAcTAcTHAcDAcDHAcNAcNNNAcPA",
     "cPHAcBAcBHAcMAcYAcRAcRRAcLAcLLAcLLLAcVAcSHAcSSAcSAcHAbVOWEL SIGN OEdOOEbSIGN NUKTA",
     "cAVAGRAHAbVOWEL SIGN AAdIdIIdUdUUdVOCALIC ReRRdCANDRA EdSHORT EdEdAIdCANDRA OdSHORT OdO",
     "dAUbSIGN VIRAMAbVOWEL SIGN PRISHTHAMATRA EdAWbOMbSTRESS SIGN UDATTAdANUDATTAbGRAVE ACCENT",
     "bACUTE ACCENTbVOWEL SIGN CANDRA LONG EdUEdUUEbLETTER QAcKHHAcGHHAcZAcDDDHAcRHAcFAcYYA",
     "cVOCALIC RRdLLbVOWEL SIGN VOCALIC LeLLbDANDAbDOUBLE DANDAbDIGIT ZEROcONEcTWOcTHREEcFOUR",
     "cFIVEcSIXcSEVENcEIGHTcNINEbABBREVIATION SIGNbSIGN HIGH SPACING DOTbLETTER CANDRA AcOEcOOE",
     "cAWcUEcUUEcMARWARI DDAcZHAcHEAVY YAcGGAcJJAcGLOTTAL STOPcDDDAcBBAaBENGALI ANJIbSIGN ",
     "CANDRABINDUcANUSVARAcVISARGA"]⟩,
   ⟨0x0985, ["aBENGALI LETTER AcAAcIcIIcUcUUcVOCALIC RdL"]⟩,
   ⟨0x098f, ["aBENGALI LETTER EcAI"]⟩,
   ⟨0x0993, ["aBENGALI LETTER OcAUcKAcKHAcGAcGHAcNGAcCAcCHAcJAcJHAcNYAcTTAcTTHAcDDAcDDHAcNNAcTA",
     "cTHAcDAcDHAcNA"]⟩,
   ⟨0x09aa, ["aBENGALI LETTER PAcPHAcBAcBHAcMAcYAcRA"]⟩,
   ⟨0x09b2, ["aBENGALI LETTER LA"]⟩,
   ⟨0x09b6, ["aBENGALI LETTER SHAcSSAcSAcHA"]⟩,
   ⟨0x09bc, ["aBENGALI SIGN NUKTAcAVAGRAHAbVOWEL SIGN AAdIdIIdUdUUdVOCALIC ReRR"]⟩,
   ⟨0x09c7, ["aBENGALI VOWEL SIGN EdAI"]⟩,
   ⟨0x09cb, ["aBENGALI VOWEL SIGN OdAUbSIGN VIRAMAbLETTER KHANDA TA"]⟩,
   ⟨0x09d7, ["aBENGALI AU LENGTH MARK"]⟩,
   ⟨0x09dc, ["aBENGALI LETTER RRAcRHA"]⟩,
   ⟨0x09df, ["aBENGALI LETTER YYAcVOCALIC RRdLLbVOWEL SIGN VOCALIC LeLL"]⟩,
   ⟨0x09e6, ["aBENGALI DIGIT ZEROcONEcTWOcTHREEcFOURcFIVEcSIXcSEVENcEIGHTcNINEbLETTER RA WITH ",
     "MIDDLE DIAGONALeLOWER DIAGONALbRUPEE MARKcSIGNbCURRENCY NUMERATOR ONEdTWOdTHREEdFOURdONE ",
     "LESS THAN THE DENOMINATORcDENOMINATOR SIXTEENbISSHARbGANDA MARKbLETTER VEDIC ANUSVARA",
     "bABBREVIATION SIGNbSANDHI MARK"]⟩,
   ⟨0x0a01, ["aGURMUKHI SIGN ADAK BINDIcBINDIcVISARGA"]⟩,
   ⟨0x0a05, ["aGURMUKHI LETTER AcAAcIcIIcUcUU"]⟩,
   ⟨0x0a0f, ["aGURMUKHI LETTER EEcAI"]⟩,
   ⟨0x0a13, ["aGURMUKHI LETTER OOcAUcKAcKHAcGAcGHAcNGAcCAcCHAcJAcJHAcNYAcTTAcTTHAcDDAcDDHAcNNA",
     "cTAcTHAcDAcDHAcNA"]⟩,
   ⟨0x0a2a, ["aGURMUKHI LETTER PAcPHAcBAcBHAcMAcYAcRA"]⟩,
   ⟨0x0a32, ["aGURMUKHI LETTER LAcLLA"]⟩,
   ⟨0x0a35, ["aGURMUKHI LETTER VAcSHA"]⟩,
   ⟨0x0a38, ["aGURMUKHI LETTER SAcHA"]⟩,
   ⟨0x0a3c, ["aGURMUKHI SIGN NUKTA"]⟩,
   ⟨0x0a3e, ["aGURMUKHI VOWEL SIGN AAdIdIIdUdUU"]⟩,
   ⟨0x0a47, ["aGURMUKHI VOWEL SIGN EEdAI"]⟩,
   ⟨0x0a4b, ["aGURMUKHI VOWEL SIGN OOdAUbSIGN VIRAMA"]⟩,
   ⟨0x0a51, ["aGURMUKHI SIGN UDAAT"]⟩,
   ⟨0x0a59, ["aGURMUKHI LETTER KHHAcGHHAcZAcRRA"]⟩,
   ⟨0x0a5e, ["aGURMUKHI LETTER FA"]⟩,
   ⟨0x0a66, ["aGURMUKHI DIGIT ZEROcONEcTWOcTHREEcFOURcFIVEcSIXcSEVENcEIGHTcNINEbTIPPIbADDAKbIRI",
     "bURAbEK ONKARbSIGN YAKASHbABBREVIATION SIGN"]⟩,
   ⟨0x0a81, ["aGUJARATI SIGN CANDRABINDUcANUSVARAcVISARGA"]⟩,
   ⟨0x0a85, ["aGUJARATI LETTER AcAAcIcIIcUcUUcVOCALIC RdLbVOWEL CANDRA E"]⟩,
   ⟨0x0a8f, ["aGUJARATI LETTER EcAIbVOWEL CANDRA O"]⟩,
   ⟨0x0a93, ["aGUJARATI LETTER OcAUcKAcKHAcGAcGHAcNGAcCAcCHAcJAcJHAcNYAcTTAcTTHAcDDAcDDHAcNNA",
     "cTAcTHAcDAcDHAcNA"]⟩,
   ⟨0x0aaa, ["aGUJARATI LETTER PAcPHAcBAcBHAcMAcYAcRA"]⟩,
   ⟨0x0ab2, ["aGUJARATI LETTER LAcLLA"]⟩,
   ⟨0x0ab5, ["aGUJARATI LETTER VAcSHAcSSAcSAcHA"]⟩,
   ⟨0x0abc, ["aGUJARATI SIGN NUKTAcAVAGRAHAbVOWEL SIGN AAdIdIIdUdUUdVOCALIC ReRRdCANDRA E"]⟩,
   ⟨0x0ac7, ["aGUJARATI VOWEL SIGN EdAIdCANDRA O"]⟩,
   ⟨0x0acb, ["aGUJARATI VOWEL SIGN OdAUbSIGN VIRAMA"]⟩,
   ⟨0x0ad0, ["aGUJARATI OM"]⟩,
   ⟨0x0ae0, ["aGUJARATI LETTER VOCALIC RRdLLbVOWEL SIGN VOCALIC LeLL"]⟩,
   ⟨0x0ae6, ["aGUJARATI DIGIT ZEROcONEcTWOcTHREEcFOURcFIVEcSIXcSEVENcEIGHTcNINEbABBREVIATION ",
     "SIGNbRUPEE SIGN"]⟩,
   ⟨0x0af9, ["aGUJARATI LETTER ZHAbSIGN SUKUNcSHADDAcMADDAHcTHREE-DOT NUKTA ABOVEcCIRCLE NUKTA ",
     "ABOVEcTWO-CIRCLE NUKTA ABOVE"]⟩,
   ⟨0x0b01, ["aORIYA SIGN CANDRABINDUcANUSVARAcVISARGA"]⟩,
   ⟨0x0b05, ["aORIYA LETTER AcAAcIcIIcUcUUcVOCALIC RdL"]⟩,
   ⟨0x0b0f, ["aORIYA LETTER EcAI"]⟩,
   ⟨0x0b13, ["aORIYA LETTER OcAUcKAcKHAcGAcGHAcNGAcCAcCHAcJAcJHAcNYAcTTAcTTHAcDDAcDDHAcNNAcTA",
     "cTHAcDAcDHAcNA"]⟩,
   ⟨0x0b2a, ["aORIYA LETTER PAcPHAcBAcBHAcMAcYAcRA"]⟩,
   ⟨0x0b32, ["aORIYA LETTER LAcLLA"]⟩,
   ⟨0x0b35, ["aORIYA LETTER VAcSHAcSSAcSAcHA"]⟩,
   ⟨0x0b3c, ["aORIYA SIGN NUKTAcAVAGRAHAbVOWEL SIGN AAdIdIIdUdUUdVOCALIC ReRR"]⟩,
   ⟨0x0b47, ["aORIYA VOWEL SIGN EdAI"]⟩,
   ⟨0x0b4b, ["aORIYA VOWEL SIGN OdAUbSIGN VIRAMA"]⟩,
   ⟨0x0b55, ["aORIYA SIGN OVERLINEbAI LENGTH MARKbAU LENGTH MARK"]⟩,
   ⟨0x0b5c, ["aORIYA LETTER RRAcRHA"]⟩,
   ⟨0x0b5f, ["aORIYA LETTER YYAcVOCALIC RRdLLbVOWEL SIGN VOCALIC LeLL"]⟩,
   ⟨0x0b66, ["aORIYA DIGIT ZEROcONEcTWOcTHREEcFOURcFIVEcSIXcSEVENcEIGHTcNINEbISSHARbLETTER WA",
     "bFRACTION ONE QUARTERdHALFcTHREE QUARTERScONE SIXTEENTHdEIGHTHcTHREE SIXTEENTHS"]⟩,
   ⟨0x0b82, ["aTAMIL SIGN ANUSVARAcVISARGA"]⟩,
   ⟨0x0b85, ["aTAMIL LETTER AcAAcIcIIcUcUU"]⟩,
   ⟨0x0b8e, ["aTAMIL LETTER EcEEcAI"]⟩,
   ⟨0x0b92, ["aTAMIL LETTER OcOOcAUcKA"]⟩,
   ⟨0x0b99, ["aTAMIL LETTER NGAcCA"]⟩,
   ⟨0x0b9c, ["aTAMIL LETTER JA"]⟩,
   ⟨0x0b9e, ["aTAMIL LETTER NYAcTTA"]⟩,
   ⟨0x0ba3, ["aTAMIL LETTER NNAcTA"]⟩,
   ⟨0x0ba8, ["aTAMIL LETTER NAcNNNAcPA"]⟩,
   ⟨0x0bae, ["aTAMIL LETTER MAcYAcRAcRRAcLAcLLAcLLLAcVAcSHAcSSAcSAcHA"]⟩,
   ⟨0x0bbe, ["aTAMIL VOWEL SIGN AAdIdIIdUdUU"]⟩,
   ⟨0x0bc6, ["aTAMIL VOWEL SIGN EdEEdAI"]⟩,
   ⟨0x0bca, ["aTAMIL VOWEL SIGN OdOOdAUbSIGN VIRAMA"]⟩,
   ⟨0x0bd0, ["aTAMIL OM"]⟩,
   ⟨0x0bd7, ["aTAMIL AU LENGTH MARK"]⟩,
   ⟨0x0be6, ["aTAMIL DIGIT ZEROcONEcTWOcTHREEcFOURcFIVEcSIXcSEVENcEIGHTcNINEbNUMBER TENcONE ",
     "HUNDREDdTHOUSANDbDAY SIGNbMONTH SIGNbYEAR SIGNbDEBIT SIGNbCREDIT SIGNbAS ABOVE SIGN",
     "bRUPEE SIGNbNUMBER SIGN"]⟩,
   ⟨0x0c00, ["aTELUGU SIGN COMBINING CANDRABINDU ABOVEcCANDRABINDUcANUSVARAcVISARGAcCOMBINING ",
     "ANUSVARA ABOVEbLETTER AcAAcIcIIcUcUUcVOCALIC RdL"]⟩,
   ⟨0x0c0e, ["aTELUGU LETTER EcEEcAI"]⟩,
   ⟨0x0c12, ["aTELUGU LETTER OcOOcAUcKAcKHAcGAcGHAcNGAcCAcCHAcJAcJHAcNYAcTTAcTTHAcDDAcDDHAcNNA",
     "cTAcTHAcDAcDHAcNA"]⟩,
   ⟨0x0c2a, ["aTELUGU LETTER PAcPHAcBAcBHAcMAcYAcRAcRRAcLAcLLAcLLLAcVAcSHAcSSAcSAcHA"]⟩,
   ⟨0x0c3c, ["aTELUGU SIGN NUKTAcAVAGRAHAbVOWEL SIGN AAdIdIIdUdUUdVOCALIC ReRR"]⟩,
   ⟨0x0c46, ["aTELUGU VOWEL SIGN EdEEdAI"]⟩,
   ⟨0x0c4a, ["aTELUGU VOWEL SIGN OdOOdAUbSIGN VIRAMA"]⟩,
   ⟨0x0c55, ["aTELUGU LENGTH MARKbAI LENGTH MARK"]⟩,
   ⟨0x0c58, ["aTELUGU LETTER TSAcDZAcRRRA"]⟩,
   ⟨0x0c5d, ["aTELUGU LETTER NAKAARA POLLU"]⟩,
   ⟨0x0c60, ["aTELUGU LETTER VOCALIC RRdLLbVOWEL SIGN VOCALIC LeLL"]⟩,
   ⟨0x0c66, ["aTELUGU DIGIT ZEROcONEcTWOcTHREEcFOURcFIVEcSIXcSEVENcEIGHTcNINE"]⟩,
   ⟨0x0c77, ["aTELUGU SIGN SIDDHAMbFRACTION DIGIT ZERO FOR ODD POWERS OF FOURdONE FOR ODD ",
     "POWERS OF FOURdTWO FOR ODD POWERS OF FOURdTHREE FOR ODD POWERS OF FOURdONE FOR EVEN ",
     "POWERS OF FOURdTWO FOR EVEN POWERS OF FOURdTHREE FOR EVEN POWERS OF FOURbSIGN TUUMU",
     "aKANNADA SIGN SPACING CANDRABINDUcCANDRABINDUcANUSVARAcVISARGAcSIDDHAMbLETTER AcAAcIcIIcU",
     "cUUcVOCALIC RdL"]⟩,
   ⟨0x0c8e, ["aKANNADA LETTER EcEEcAI"]⟩,
   ⟨0x0c92, ["aKANNADA LETTER OcOOcAUcKAcKHAcGAcGHAcNGAcCAcCHAcJAcJHAcNYAcTTAcTTHAcDDAcDDHAcNNA",
     "cTAcTHAcDAcDHAcNA"]⟩]

end SchemaMerge.Text
