import SchemaMerge.Text.Name.Run

namespace SchemaMerge.Text

def nameAliases : List NameRun :=
  [⟨0x0000, ["aNULaSOHaSTART OF TEXTaEND OF TEXTcTRANSMISSIONaENQaACKaALERTaBACKSPACE",
     "aCHARACTER TABULATIONaEND OF LINEaLINE TABULATIONaFFaCARRIAGE RETURNaLOCKING-SHIFT ONE",
     "bZEROaDATA LINK ESCAPEaDC1aDC2aDC3aDC4aNAKaSYNaEND OF TRANSMISSION BLOCKaCANaEND OF ",
     "MEDIUMaSUBaESCaFILE SEPARATORaGROUP SEPARATORaINFORMATION SEPARATOR TWOcONEaSP"]⟩,
   ⟨0x007f, ["aDELaPADaHIGH OCTET PRESETaBPHaNBHaINDaNELaSSAaEND OF SELECTED AREAaCHARACTER ",
     "TABULATION SETcWITH JUSTIFICATIONaLINE TABULATION SETaPARTIAL LINE DOWNcBACKWARDaREVERSE ",
     "INDEXaSINGLE SHIFT TWOcTHREEaDCSaPRIVATE USE ONEcTWOaSET TRANSMIT STATEaCANCEL CHARACTER",
     "aMESSAGE WAITINGaSPAaEND OF GUARDED AREAaSOSaSGCaSCIaCONTROL SEQUENCE INTRODUCERaST",
     "aOPERATING SYSTEM COMMANDaPMaAPCaNBSP"]⟩,
   ⟨0x00ad, ["aSHY"]⟩,
   ⟨0x01a2, ["aLATIN CAPITAL LETTER GHAbSMALL LETTER GHA"]⟩,
   ⟨0x034f, ["aCGJ"]⟩,
   ⟨0x061c, ["aALM"]⟩,
   ⟨0x0709, ["aSYRIAC SUBLINEAR COLON SKEWED LEFT"]⟩,
   ⟨0x0cde, ["aKANNADA LETTER LLLA"]⟩,
   ⟨0x0e9d, ["aLAO LETTER FO FON"]⟩,
   ⟨0x0e9f, ["aLAO LETTER FO FAY"]⟩,
   ⟨0x0ea3, ["aLAO LETTER RO"]⟩,
   ⟨0x0ea5, ["aLAO LETTER LO"]⟩,
   ⟨0x0fd0, ["aTIBETAN MARK BKA- SHOG GI MGO RGYAN"]⟩,
   ⟨0x11ec, ["aHANGUL JONGSEONG YESIEUNG-KIYEOKcYESIEUNG-SSANGKIYEOKcSSANGYESIEUNG",
     "cYESIEUNG-KHIEUKH"]⟩,
   ⟨0x180b, ["aFVS1aFVS2aFVS3aMVSaFVS4"]⟩,
   ⟨0x200b, ["aZWSPaZWNJaZWJaLRMaRLM"]⟩,
   ⟨0x202a, ["aLREaRLEaPDFaLROaRLOaNNBSP"]⟩,
   ⟨0x205f, ["aMMSPaWJ"]⟩,
   ⟨0x2066, ["aLRIaRLIaFSIaPDI"]⟩,
   ⟨0x2118, ["aWEIERSTRASS ELLIPTIC FUNCTION"]⟩,
   ⟨0x2448, ["aMICR ON US SYMBOLbDASH SYMBOL"]⟩,
   ⟨0x2b7a, ["aLEFTWARDS TRIANGLE-HEADED ARROW WITH DOUBLE VERTICAL STROKE"]⟩,
   ⟨0x2b7c, ["aRIGHTWARDS TRIANGLE-HEADED ARROW WITH DOUBLE VERTICAL STROKE"]⟩,
   ⟨0xa015, ["aYI SYLLABLE ITERATION MARK"]⟩,
   ⟨0xaa6e, ["aMYANMAR LETTER KHAMTI LLA"]⟩,
   ⟨0xfe00, ["aVS1aVS2aVS3aVS4aVS5aVS6aVS7aVS8aVS9aVS10aVS11aVS12aVS13aVS14aVS15aVS16"]⟩,
   ⟨0xfe18, ["aPRESENTATION FORM FOR VERTICAL RIGHT WHITE LENTICULAR BRACKET"]⟩,
   ⟨0xfeff, ["aBOM"]⟩,
   ⟨0x122d4, ["aCUNEIFORM SIGN NU11 TENUdOVER NU11 BUR OVER BUR"]⟩,
   ⟨0x16e56, ["aMEDEFAIDRIN CAPITAL LETTER HdNG"]⟩,
   ⟨0x16e76, ["aMEDEFAIDRIN SMALL LETTER HdNG"]⟩,
   ⟨0x1b001, ["aHENTAIGANA LETTER E-1"]⟩,
   ⟨0x1d0c5, ["aBYZANTINE MUSICAL SYMBOL FTHORA SKLIRON CHROMA VASIS"]⟩,
   ⟨0xe0100, ["aVS17aVS18aVS19aVS20aVS21aVS22aVS23aVS24aVS25aVS26aVS27aVS28aVS29aVS30aVS31aVS32",
     "aVS33aVS34aVS35aVS36aVS37aVS38aVS39aVS40aVS41aVS42aVS43aVS44aVS45aVS46aVS47aVS48aVS49",
     "aVS50aVS51aVS52aVS53aVS54aVS55aVS56aVS57aVS58aVS59aVS60aVS61aVS62aVS63aVS64aVS65aVS66",
     "aVS67aVS68aVS69aVS70aVS71aVS72aVS73aVS74aVS75aVS76aVS77aVS78aVS79aVS80aVS81aVS82aVS83",
     "aVS84aVS85aVS86aVS87aVS88aVS89aVS90aVS91aVS92aVS93aVS94aVS95aVS96aVS97aVS98aVS99aVS100",
     "aVS101aVS102aVS103aVS104aVS105aVS106aVS107aVS108aVS109aVS110aVS111aVS112aVS113aVS114",
     "aVS115aVS116aVS117aVS118aVS119aVS120aVS121aVS122aVS123aVS124aVS125aVS126aVS127aVS128",
     "aVS129aVS130aVS131aVS132aVS133aVS134aVS135aVS136aVS137aVS138aVS139aVS140aVS141aVS142",
     "aVS143aVS144aVS145aVS146aVS147aVS148aVS149aVS150aVS151aVS152aVS153aVS154aVS155aVS156",
     "aVS157aVS158aVS159aVS160aVS161aVS162aVS163aVS164aVS165aVS166aVS167aVS168aVS169aVS170",
     "aVS171aVS172aVS173aVS174aVS175aVS176aVS177aVS178aVS179aVS180aVS181aVS182aVS183aVS184",
     "aVS185aVS186aVS187aVS188aVS189aVS190aVS191aVS192aVS193aVS194aVS195aVS196aVS197aVS198",
     "aVS199aVS200aVS201aVS202aVS203aVS204aVS205aVS206aVS207aVS208aVS209aVS210aVS211aVS212",
     "aVS213aVS214aVS215aVS216aVS217aVS218aVS219aVS220aVS221aVS222aVS223aVS224aVS225aVS226",
     "aVS227aVS228aVS229aVS230aVS231aVS232aVS233aVS234aVS235aVS236aVS237aVS238aVS239aVS240",
     "aVS241aVS242aVS243aVS244aVS245aVS246aVS247aVS248aVS249aVS250aVS251aVS252aVS253aVS254",
     "aVS255aVS256"]⟩,
   ⟨0x0000, ["aNULLaSTART OF HEADINGaSTXaETXaEOTaENQUIRYaACKNOWLEDGEaBELaBSaHORIZONTAL ",
     "TABULATIONaEOLaVERTICAL TABULATIONaFORM FEEDaCRaSHIFT OUTbINaDLEaDEVICE CONTROL ONEcTWO",
     "cTHREEcFOURaNEGATIVE ACKNOWLEDGEaSYNCHRONOUS IDLEaETBaCANCELaEOMaSUBSTITUTEaESCAPEaFSaGS",
     "aRECORD SEPARATORaUNIT SEPARATOR"]⟩,
   ⟨0x007f, ["aDELETEaPADDING CHARACTERaHOPaBREAK PERMITTED HEREaNO BREAK HEREaINDEXaNEXT LINE",
     "aSTART OF SELECTED AREAaESAaHORIZONTAL TABULATION SETcWITH JUSTIFICATIONaVERTICAL ",
     "TABULATION SETaPARTIAL LINE FORWARDcUPaREVERSE LINE FEEDaSINGLE-SHIFT-2aSINGLE-SHIFT-3",
     "aDEVICE CONTROL STRINGaPRIVATE USE-1bUSE-2aSTSaCCHaMWaSTART OF GUARDED AREAaEND OF ",
     "PROTECTED AREAaSTART OF STRINGaSINGLE GRAPHIC CHARACTER INTRODUCERbCHARACTER INTRODUCER",
     "aCSIaSTRING TERMINATORaOSCaPRIVACY MESSAGEaAPPLICATION PROGRAM COMMAND"]⟩,
   ⟨0xfeff, ["aBYTE ORDER MARK"]⟩,
   ⟨0x0009, ["aHTaLFaVT"]⟩,
   ⟨0x000e, ["aSOaSI"]⟩,
   ⟨0x001c, ["aINFORMATION SEPARATOR FOURcTHREEaRSaUS"]⟩,
   ⟨0x0088, ["aHTSaHTJaVTSaPLDaPLUaRIaSS2aSS3"]⟩,
   ⟨0x0091, ["aPU1aPU2"]⟩,
   ⟨0x0096, ["aSTART OF PROTECTED AREAaEPA"]⟩,
   ⟨0xfeff, ["aZWNBSP"]⟩,
   ⟨0x0009, ["aTABaLINE FEED"]⟩,
   ⟨0x000a, ["aNEW LINE"]⟩,
   ⟨0x000a, ["aNL"]⟩]

end SchemaMerge.Text
