import ChatRiddles.Text.Names.Run
/-!
The names of the scripts of India and its neighbours, of Ethiopia and of the Cherokee.
-/

namespace ChatRiddles.Text.Names

/-- The names of the scripts of India and its neighbours, of Ethiopia and of the Cherokee. -/
def abugidas : List Run := [
  ⟨0x830, "
aSAMARITAN PUNCTUATION NEQUDAAwAFSAAQxNGEDwBAUwATMAAUwSHIYYAALAAkABBREVIATION MARK
kPUNCTUATION MELODIC QITSAwZIQAAwQITSAwZAEFwTURUwARKAANUwSOF MASHFAATwANNAAU"⟩,
  ⟨0x840, "
aMANDAIC LETTER HALQApABqGqDqHpUSHENNApAZpITpATTqKSArqLqMqNqSpINpAPqSZqQqRqSHqTpDUSHENNApKADpAIN
iAFFRICATION MARKiVOCALIZATION MARKiGEMINATION MARK"⟩,
  ⟨0x85e, "aMANDAIC PUNCTUATION"⟩,
  ⟨0x860, "aSYRIAC LETTER MALAYALAM NGAyJAyNYAyTTAyNNAzNNAyBHAyRAyLLAzLLAySSA"⟩,
  ⟨0x870, "
aARABIC LETTER ALEF WITH ATTACHED FATHAzTTACHED TOP RIGHT FATHAyRIGHT MIDDLE STROKE
yLEFT MIDDLE STROKEyATTACHED KASRAzTTACHED BOTTOM RIGHT KASRAzTTACHED ROUND DOT ABOVE
zTTACHED RIGHT ROUND DOTzTTACHED LEFT ROUND DOTzTTACHED ROUND DOT BELOWyDOT ABOVE
yATTACHED TOP RIGHT FATHA AND DOT ABOVEyRIGHT MIDDLE STROKE AND DOT ABOVE
yATTACHED BOTTOM RIGHT KASRA AND DOT ABOVEzTTACHED TOP RIGHT FATHA AND LEFT RING
yRIGHT MIDDLE STROKE AND LEFT RINGyATTACHED BOTTOM RIGHT KASRA AND LEFT RINGzTTACHED RIGHT HAMZA
zTTACHED LEFT HAMZAhTATWEEL WITH OVERSTRUCK HAMZAzTRUCK WAWuTWO DOTS BELOWhLETTER THIN YEH
hBASELINE ROUND DOThRAISED ROUND DOThLETTER NOON WITH INVERTED SMALL V
oHAH WITH INVERTED SMALL V BELOWoTAH WITH DOT BELOWxTHREE DOTS BELOW
oKEHEH WITH TWO DOTS VERTICALLY BELOWhVERTICAL TAIL"⟩,
  ⟨0x890, "aARABIC POUND MARK ABOVEiIASTRE MARK ABOVE"⟩,
  ⟨0x898, "
aARABIC SMALL HIGH WORD AL-JUZnLOW WORD ISHMAAMxMAALAwTASHEELhMADDA WAAJIB
hSUPERSCRIPT ALEF MOKHASSAShDOUBLED MADDAhHALF MADDA OVER MADDAhLETTER BEH WITH SMALL V BELOW
xHAMZA ABOVEoJEEM WITH TWO DOTS ABOVEoTAH WITH TWO DOTS ABOVE
oFEH WITH DOT BELOW AND THREE DOTS ABOVEoQAF WITH DOT BELOWoLAM WITH DOUBLE BAR
oMEEM WITH THREE DOTS ABOVEoYEH WITH TWO DOTS BELOW AND HAMZA ABOVEzO DOTS BELOW AND DOT ABOVE
oREH WITH LOOPoWAW WITH DOT WITHINoROHINGYA YEHoLOW ALEFoDAL WITH THREE DOTS BELOW
oSAD WITH THREE DOTS BELOWoGAF WITH INVERTED STROKEoSTRAIGHT WAWoZAIN WITH INVERTED V ABOVE
oAIN WITH THREE DOTS BELOWoKAF WITH DOT BELOWoQAF WITH DOT BELOW AND NO DOTS ABOVE
oBEH WITH SMALL MEEM ABOVEoPEH WITH SMALL MEEM ABOVEoTEH WITH SMALL TEH ABOVE
oREH WITH SMALL NOON ABOVEoYEH WITH TWO DOTS BELOW AND SMALL NOON ABOVEoAFRICAN FEHwQAFwNOON
oPEH WITH SMALL VoTEH WITH SMALL VpTEH WITH SMALL VpCHEH WITH SMALL VoKEHEH WITH SMALL V
oGHAIN WITH THREE DOTS ABOVEoAFRICAN QAF WITH THREE DOTS ABOVEoJEEM WITH THREE DOTS ABOVE
zHREE DOTS BELOWoLAM WITH SMALL ARABIC LETTER TAH ABOVEoGRAFhSMALL FARSI YEHnHIGH FARSI YEH
sYEH BARREE WITH TWO DOTS BELOWsWORD SAHsZAHhLARGE ROUND DOT ABOVExBELOWhSUKUN BELOW
hLARGE CIRCLE BELOWnROUND DOT INSIDE CIRCLE BELOWhSMALL LOW WAWnHIGH WORD AR-RUBsSADsAINsQAF
sNOON WITH KASRAnLOW NOON WITH KASRAnHIGH WORD ATH-THALATHAyS-SAJDAyN-NISFxSAKTAxQIFxWAQFA
sFOOTNOTE MARKERsSIGN SAFHAhDISPUTED END OF AYAHhTURNED DAMMA BELOWhCURLY FATHAnDAMMAnKASRA
nFATHATANnDAMMATANnKASRATANhTONE ONE DOT ABOVEmTWO DOTS ABOVEmLOOP ABOVEmONE DOT BELOW
mTWO DOTS BELOWmLOOP BELOWhOPEN FATHATANmDAMMATANmKASRATANhSMALL HIGH WAWhFATHA WITH RING
sDOT ABOVEhKASRA WITH DOT BELOWhLEFT ARROWHEAD ABOVEhRIGHT ARROWHEAD ABOVEhLEFT ARROWHEAD BELOW
hRIGHT ARROWHEAD BELOWhDOUBLE RIGHT ARROWHEAD ABOVEzHEAD ABOVE WITH DOT
hRIGHT ARROWHEAD ABOVE WITH DOThDAMMA WITH DOThMARK SIDEWAYS NOON GHUNNA
aDEVANAGARI SIGN INVERTED CANDRABINDUqCANDRABINDUqANUSVARAqVISARGAlLETTER SHORT AsAtAsItIsUtU
sVOCALIC Rz LsCANDRA EsSHORT EsEsAIsCANDRA OsSHORT OsOsAUsKAtHAsGAtHAsNGAsCAtHAsJAtHAsNYAsTTAuHA
sDDAuHAsNNAsTAtHAsDAtHAsNAtNNAsPAtHAsBAtHAsMAsYAsRAtRAsLAtLAuLAsVAsSHAtSAtAsHAlVOWEL SIGN OExOE
lSIGN NUKTAqAVAGRAHAlVOWEL SIGN AAwIxIwUxUwVOCALIC RzALIC RRwCANDRA EwSHORT EwEwAIwCANDRA O
wSHORT OwOwAUlSIGN VIRAMAlVOWEL SIGN PRISHTHAMATRA EwAWlOMlSTRESS SIGN UDATTAxANUDATTA
lGRAVE ACCENTlACUTE ACCENTlVOWEL SIGN CANDRA LONG EwUExUElLETTER QAsKHHAsGHHAsZAsDDDHAsRHAsFA
sYYAsVOCALIC RRz LLlVOWEL SIGN VOCALIC LzALIC LLlDANDAmOUBLE DANDAmIGIT ZEROrONErTWOsHREErFOUR
sIVErSIXsEVENrEIGHTrNINElABBREVIATION SIGNlSIGN HIGH SPACING DOTlLETTER CANDRA AsOEtOEsAWsUEtUE
sMARWARI DDAsZHAsHEAVY YAsGGAsJJAsGLOTTAL STOPsDDDAsBBAaBENGALI ANJIiSIGN CANDRABINDUnANUSVARA
nVISARGA"⟩,
  ⟨0x985, "aBENGALI LETTER AqApIqIpUqUpVOCALIC RxL"⟩,
  ⟨0x98f, "aBENGALI LETTER EpAI"⟩,
  ⟨0x993, "
aBENGALI LETTER OpAUpKAqHApGAqHApNGApCAqHApJAqHApNYApTTArHApDDArHApNNApTAqHApDAqHApNA"⟩,
  ⟨0x9aa, "aBENGALI LETTER PAqHApBAqHApMApYApRA"⟩,
  ⟨0x9b2, "aBENGALI LETTER LA"⟩,
  ⟨0x9b6, "aBENGALI LETTER SHAqSAqApHA"⟩,
  ⟨0x9bc, "aBENGALI SIGN NUKTAnAVAGRAHAiVOWEL SIGN AAtIuItUuUtVOCALIC RzC RR"⟩,
  ⟨0x9c7, "aBENGALI VOWEL SIGN EtAI"⟩,
  ⟨0x9cb, "aBENGALI VOWEL SIGN OtAUiSIGN VIRAMAiLETTER KHANDA TA"⟩,
  ⟨0x9d7, "aBENGALI AU LENGTH MARK"⟩,
  ⟨0x9dc, "aBENGALI LETTER RRAqHA"⟩,
  ⟨0x9df, "aBENGALI LETTER YYApVOCALIC RRxLLiVOWEL SIGN VOCALIC LzC LL"⟩,
  ⟨0x9e6, "
aBENGALI DIGIT ZEROoONEoTWOpHREEoFOURpIVEoSIXpEVENoEIGHToNINEiLETTER RA WITH MIDDLE DIAGONAL
xLOWER DIAGONALiRUPEE MARKoSIGNiCURRENCY NUMERATOR ONEzR TWOzR THREEzR FOUR
zR ONE LESS THAN THE DENOMINATORrDENOMINATOR SIXTEENiISSHARiGANDA MARKiLETTER VEDIC ANUSVARA
iABBREVIATION SIGNiSANDHI MARK"⟩,
  ⟨0xa01, "aGURMUKHI SIGN ADAK BINDIoBINDIoVISARGA"⟩,
  ⟨0xa05, "aGURMUKHI LETTER ArAqIrIqUrU"⟩,
  ⟨0xa0f, "aGURMUKHI LETTER EEqAI"⟩,
  ⟨0xa13, "
aGURMUKHI LETTER OOqAUqKArHAqGArHAqNGAqCArHAqJArHAqNYAqTTAsHAqDDAsHAqNNAqTArHAqDArHAqNA"⟩,
  ⟨0xa2a, "aGURMUKHI LETTER PArHAqBArHAqMAqYAqRA"⟩,
  ⟨0xa32, "aGURMUKHI LETTER LArLA"⟩,
  ⟨0xa35, "aGURMUKHI LETTER VAqSHA"⟩,
  ⟨0xa38, "aGURMUKHI LETTER SAqHA"⟩,
  ⟨0xa3c, "aGURMUKHI SIGN NUKTA"⟩,
  ⟨0xa3e, "aGURMUKHI VOWEL SIGN AAuIvIuUvU"⟩,
  ⟨0xa47, "aGURMUKHI VOWEL SIGN EEuAI"⟩,
  ⟨0xa4b, "aGURMUKHI VOWEL SIGN OOuAUjSIGN VIRAMA"⟩,
  ⟨0xa51, "aGURMUKHI SIGN UDAAT"⟩,
  ⟨0xa59, "aGURMUKHI LETTER KHHAqGHHAqZAqRRA"⟩,
  ⟨0xa5e, "aGURMUKHI LETTER FA"⟩,
  ⟨0xa66, "
aGURMUKHI DIGIT ZEROpONEpTWOqHREEpFOURqIVEpSIXqEVENpEIGHTpNINEjTIPPIjADDAKjIRIjURAjEK ONKAR
jSIGN YAKASHjABBREVIATION SIGN"⟩,
  ⟨0xa81, "aGUJARATI SIGN CANDRABINDUoANUSVARAoVISARGA"⟩,
  ⟨0xa85, "aGUJARATI LETTER ArAqIrIqUrUqVOCALIC RyLjVOWEL CANDRA E"⟩,
  ⟨0xa8f, "aGUJARATI LETTER EqAIjVOWEL CANDRA O"⟩,
  ⟨0xa93, "
aGUJARATI LETTER OqAUqKArHAqGArHAqNGAqCArHAqJArHAqNYAqTTAsHAqDDAsHAqNNAqTArHAqDArHAqNA"⟩,
  ⟨0xaaa, "aGUJARATI LETTER PArHAqBArHAqMAqYAqRA"⟩,
  ⟨0xab2, "aGUJARATI LETTER LArLA"⟩,
  ⟨0xab5, "aGUJARATI LETTER VAqSHArSArAqHA"⟩,
  ⟨0xabc, "aGUJARATI SIGN NUKTAoAVAGRAHAjVOWEL SIGN AAuIvIuUvUuVOCALIC RzIC RRuCANDRA E"⟩,
  ⟨0xac7, "aGUJARATI VOWEL SIGN EuAIuCANDRA O"⟩,
  ⟨0xacb, "aGUJARATI VOWEL SIGN OuAUjSIGN VIRAMA"⟩,
  ⟨0xad0, "aGUJARATI OM"⟩,
  ⟨0xae0, "aGUJARATI LETTER VOCALIC RRyLLjVOWEL SIGN VOCALIC LzIC LL"⟩,
  ⟨0xae6, "
aGUJARATI DIGIT ZEROpONEpTWOqHREEpFOURqIVEpSIXqEVENpEIGHTpNINEjABBREVIATION SIGNjRUPEE SIGN"⟩,
  ⟨0xaf9, "
aGUJARATI LETTER ZHAjSIGN SUKUNpHADDAoMADDAHoTHREE-DOT NUKTA ABOVEoCIRCLE NUKTA ABOVE
oTWO-CIRCLE NUKTA ABOVE"⟩,
  ⟨0xb01, "aORIYA SIGN CANDRABINDUlANUSVARAlVISARGA"⟩,
  ⟨0xb05, "aORIYA LETTER AoAnIoInUoUnVOCALIC RvL"⟩,
  ⟨0xb0f, "aORIYA LETTER EnAI"⟩,
  ⟨0xb13, "
aORIYA LETTER OnAUnKAoHAnGAoHAnNGAnCAoHAnJAoHAnNYAnTTApHAnDDApHAnNNAnTAoHAnDAoHAnNA"⟩,
  ⟨0xb2a, "aORIYA LETTER PAoHAnBAoHAnMAnYAnRA"⟩,
  ⟨0xb32, "aORIYA LETTER LAoLA"⟩,
  ⟨0xb35, "aORIYA LETTER VAnSHAoSAoAnHA"⟩,
  ⟨0xb3c, "aORIYA SIGN NUKTAlAVAGRAHAgVOWEL SIGN AArIsIrUsUrVOCALIC RzRR"⟩,
  ⟨0xb47, "aORIYA VOWEL SIGN ErAI"⟩,
  ⟨0xb4b, "aORIYA VOWEL SIGN OrAUgSIGN VIRAMA"⟩,
  ⟨0xb55, "aORIYA SIGN OVERLINEgAI LENGTH MARKhU LENGTH MARK"⟩,
  ⟨0xb5c, "aORIYA LETTER RRAoHA"⟩,
  ⟨0xb5f, "aORIYA LETTER YYAnVOCALIC RRvLLgVOWEL SIGN VOCALIC LzLL"⟩,
  ⟨0xb66, "
aORIYA DIGIT ZEROmONEmTWOnHREEmFOURnIVEmSIXnEVENmEIGHTmNINEgISSHARgLETTER WA
gFRACTION ONE QUARTERtHALFpTHREE QUARTERSpONE SIXTEENTHtEIGHTHpTHREE SIXTEENTHS"⟩,
  ⟨0xb82, "aTAMIL SIGN ANUSVARAlVISARGA"⟩,
  ⟨0xb85, "aTAMIL LETTER AoAnIoInUoU"⟩,
  ⟨0xb8e, "aTAMIL LETTER EoEnAI"⟩,
  ⟨0xb92, "aTAMIL LETTER OoOnAUnKA"⟩,
  ⟨0xb99, "aTAMIL LETTER NGAnCA"⟩,
  ⟨0xb9c, "aTAMIL LETTER JA"⟩,
  ⟨0xb9e, "aTAMIL LETTER NYAnTTA"⟩,
  ⟨0xba3, "aTAMIL LETTER NNAnTA"⟩,
  ⟨0xba8, "aTAMIL LETTER NAoNNAnPA"⟩,
  ⟨0xbae, "aTAMIL LETTER MAnYAnRAoRAnLAoLApLAnVAnSHAoSAoAnHA"⟩,
  ⟨0xbbe, "aTAMIL VOWEL SIGN AArIsIrUsU"⟩,
  ⟨0xbc6, "aTAMIL VOWEL SIGN EsErAI"⟩,
  ⟨0xbca, "aTAMIL VOWEL SIGN OsOrAUgSIGN VIRAMA"⟩,
  ⟨0xbd0, "aTAMIL OM"⟩,
  ⟨0xbd7, "aTAMIL AU LENGTH MARK"⟩,
  ⟨0xbe6, "
aTAMIL DIGIT ZEROmONEmTWOnHREEmFOURnIVEmSIXnEVENmEIGHTmNINEgNUMBER TENnONE HUNDREDrTHOUSAND
gDAY SIGNgMONTH SIGNgYEAR SIGNgDEBIT SIGNgCREDIT SIGNgAS ABOVE SIGNgRUPEE SIGNgNUMBER SIGN"⟩,
  ⟨0xc00, "
aTELUGU SIGN COMBINING CANDRABINDU ABOVEnANDRABINDUmANUSVARAmVISARGAmCOMBINING ANUSVARA ABOVE
hLETTER ApAoIpIoUpUoVOCALIC RwL"⟩,
  ⟨0xc0e, "aTELUGU LETTER EpEoAI"⟩,
  ⟨0xc12, "
aTELUGU LETTER OpOoAUoKApHAoGApHAoNGAoCApHAoJApHAoNYAoTTAqHAoDDAqHAoNNAoTApHAoDApHAoNA"⟩,
  ⟨0xc2a, "aTELUGU LETTER PApHAoBApHAoMAoYAoRApRAoLApLAqLAoVAoSHApSApAoHA"⟩,
  ⟨0xc3c, "aTELUGU SIGN NUKTAmAVAGRAHAhVOWEL SIGN AAsItIsUtUsVOCALIC Rz RR"⟩,
  ⟨0xc46, "aTELUGU VOWEL SIGN EtEsAI"⟩,
  ⟨0xc4a, "aTELUGU VOWEL SIGN OtOsAUhSIGN VIRAMA"⟩,
  ⟨0xc55, "aTELUGU LENGTH MARKhAI LENGTH MARK"⟩,
  ⟨0xc58, "aTELUGU LETTER TSAoDZAoRRRA"⟩,
  ⟨0xc5d, "aTELUGU LETTER NAKAARA POLLU"⟩,
  ⟨0xc60, "aTELUGU LETTER VOCALIC RRwLLhVOWEL SIGN VOCALIC Lz LL"⟩,
  ⟨0xc66, "aTELUGU DIGIT ZEROnONEnTWOoHREEnFOURoIVEnSIXoEVENnEIGHTnNINE"⟩,
  ⟨0xc77, "
aTELUGU SIGN SIDDHAMhFRACTION DIGIT ZERO FOR ODD POWERS OF FOURwONE FOR ODD POWERS OF FOUR
wTWO FOR ODD POWERS OF FOURxHREE FOR ODD POWERS OF FOURwONE FOR EVEN POWERS OF FOUR
wTWO FOR EVEN POWERS OF FOURxHREE FOR EVEN POWERS OF FOURhSIGN TUUMU
aKANNADA SIGN SPACING CANDRABINDUnCANDRABINDUnANUSVARAnVISARGAnSIDDHAMiLETTER AqApIqIpUqU
pVOCALIC RxL"⟩,
  ⟨0xc8e, "aKANNADA LETTER EqEpAI"⟩,
  ⟨0xc92, "
aKANNADA LETTER OqOpAUpKAqHApGAqHApNGApCAqHApJAqHApNYApTTArHApDDArHApNNApTAqHApDAqHApNA"⟩,
  ⟨0xcaa, "aKANNADA LETTER PAqHApBAqHApMApYApRAqRApLAqLA"⟩,
  ⟨0xcb5, "aKANNADA LETTER VApSHAqSAqApHA"⟩,
  ⟨0xcbc, "aKANNADA SIGN NUKTAnAVAGRAHAiVOWEL SIGN AAtIuItUuUtVOCALIC RzC RR"⟩,
  ⟨0xcc6, "aKANNADA VOWEL SIGN EuEtAI"⟩,
  ⟨0xcca, "aKANNADA VOWEL SIGN OuOtAUiSIGN VIRAMA"⟩,
  ⟨0xcd5, "aKANNADA LENGTH MARKiAI LENGTH MARK"⟩,
  ⟨0xcdd, "aKANNADA LETTER NAKAARA POLLUpFA"⟩,
  ⟨0xce0, "aKANNADA LETTER VOCALIC RRxLLiVOWEL SIGN VOCALIC LzC LL"⟩,
  ⟨0xce6, "aKANNADA DIGIT ZEROoONEoTWOpHREEoFOURpIVEoSIXpEVENoEIGHToNINE"⟩,
  ⟨0xcf1, "aKANNADA SIGN JIHVAMULIYAnUPADHMANIYA"⟩,
  ⟨0xd00, "
aMALAYALAM SIGN COMBINING ANUSVARA ABOVEqANDRABINDUpANUSVARApVISARGAkLETTER VEDIC ANUSVARArAsArI
sIrUsUrVOCALIC RzL"⟩,
  ⟨0xd0e, "aMALAYALAM LETTER EsErAI"⟩,
  ⟨0xd12, "
aMALAYALAM LETTER OsOrAUrKAsHArGAsHArNGArCAsHArJAsHArNYArTTAtHArDDAtHArNNArTAsHArDAsHArNAsNNArPA
sHArBAsHArMArYArRAsRArLAsLAtLArVArSHAsSAsArHArTTTAkSIGN VERTICAL BAR VIRAMApCIRCULAR VIRAMA
pAVAGRAHAkVOWEL SIGN AAvIwIvUwUvVOCALIC RzLIC RR"⟩,
  ⟨0xd46, "aMALAYALAM VOWEL SIGN EwEvAI"⟩,
  ⟨0xd4a, "aMALAYALAM VOWEL SIGN OwOvAUkSIGN VIRAMAkLETTER DOT REPHkSIGN PARA"⟩,
  ⟨0xd54, "
aMALAYALAM LETTER CHILLU MyYyLLLkAU LENGTH MARKkFRACTION ONE ONE-HUNDRED-AND-SIXTIETHxFORTIETH
tTHREE EIGHTIETHStONE TWENTIETHyENTHtTHREE TWENTIETHStONE FIFTHkLETTER ARCHAIC IIrVOCALIC RRzLL
kVOWEL SIGN VOCALIC LzLIC LL"⟩,
  ⟨0xd66, "
aMALAYALAM DIGIT ZEROqONEqTWOrHREEqFOURrIVEqSIXrEVENqEIGHTqNINEkNUMBER TENrONE HUNDREDvTHOUSAND
kFRACTION ONE QUARTERxHALFtTHREE QUARTERStONE SIXTEENTHxEIGHTHtTHREE SIXTEENTHSkDATE MARK
kLETTER CHILLU NNzyRRyLzLyK"⟩,
  ⟨0xd81, "aSINHALA SIGN CANDRABINDUnANUSVARAYAnVISARGAYA"⟩,
  ⟨0xd85, "
aSINHALA LETTER AYANNAqAYANNAqEYANNArEYANNApIYANNAqIYANNApUYANNAqUYANNApIRUYANNAsUYANNAqLUYANNA
sUYANNApEYANNAqEYANNApAIYANNApOYANNAqOYANNApAUYANNA"⟩,
  ⟨0xd9a, "
aSINHALA LETTER ALPAPRAANA KAYANNApMAHAAPRAANA KAYANNApALPAPRAANA GAYANNApMAHAAPRAANA GAYANNA
pKANTAJA NAASIKYAYApSANYAKA GAYANNApALPAPRAANA CAYANNApMAHAAPRAANA CAYANNApALPAPRAANA JAYANNA
pMAHAAPRAANA JAYANNApTAALUJA NAASIKYAYAxSANYOOGA NAAKSIKYAYApSANYAKA JAYANNApALPAPRAANA TTAYANNA
pMAHAAPRAANA TTAYANNApALPAPRAANA DDAYANNApMAHAAPRAANA DDAYANNAqUURDHAJA NAYANNApSANYAKA DDAYANNA
pALPAPRAANA TAYANNApMAHAAPRAANA TAYANNApALPAPRAANA DAYANNApMAHAAPRAANA DAYANNApDANTAJA NAYANNA"⟩,
  ⟨0xdb3, "
aSINHALA LETTER SANYAKA DAYANNApALPAPRAANA PAYANNApMAHAAPRAANA PAYANNApALPAPRAANA BAYANNA
pMAHAAPRAANA BAYANNArYANNApAMBA BAYANNApYAYANNApRAYANNA"⟩,
  ⟨0xdbd, "aSINHALA LETTER DANTAJA LAYANNA"⟩,
  ⟨0xdc0, "
aSINHALA LETTER VAYANNApTAALUJA SAYANNApMUURDHAJA SAYANNApDANTAJA SAYANNApHAYANNA
pMUURDHAJA LAYANNApFAYANNA"⟩,
  ⟨0xdca, "aSINHALA SIGN AL-LAKUNA"⟩,
  ⟨0xdcf, "
aSINHALA VOWEL SIGN AELA-PILLAtKETTI AEDA-PILLAtDIGA AEDA-PILLAtKETTI IS-PILLAtDIGA IS-PILLA
tKETTI PAA-PILLA"⟩,
  ⟨0xdd6, "aSINHALA VOWEL SIGN DIGA PAA-PILLA"⟩,
  ⟨0xdd8, "
aSINHALA VOWEL SIGN GAETTA-PILLAtKOMBUVAtDIGA KOMBUVAtKOMBU DEKAyVA HAA AELA-PILLA
zA HAA DIGA AELA-PILLAzA HAA GAYANUKITTAtGAYANUKITTA"⟩,
  ⟨0xde6, "aSINHALA LITH DIGIT ZEROtONEtTWOuHREEtFOURuIVEtSIXuEVENtEIGHTtNINE"⟩,
  ⟨0xdf2, "aSINHALA VOWEL SIGN DIGA GAETTA-PILLAzAYANUKITTAiPUNCTUATION KUNDDALIYA"⟩,
  ⟨0xe01, "
aTHAI CHARACTER KO KAIqHO KHAIvUATvWAIvONtRAKHANGpNGO NGUpCHO CHANvINGvANGpSO SOpCHO CHOE
pYO YINGpDO CHADApTO PATAKqHO THANtNANGMONTHOtPHUTHAOpNO NENpDO DEKpTO TAOqHO THUNGvAHANvONG
pNO NUpBO BAIMAIpPO PLAqHO PHUNGpFO FApPHO PHANpFO FANpPHO SAMPHAOpMO MApYO YAKpRO RUAqUpLO LING
qUpWO WAENpSO SALAsRUSIsSUApHO HIPpLO CHULApO ANGpHO NOKHUKpPAIYANNOIpSARA ApMAI HAN-AKAT
pSARA AAvMuIvIuUEwEvvUpPHINTHU"⟩,
  ⟨0xe3f, "
aTHAI CURRENCY SYMBOL BAHTgHARACTER SARA EuAEuOuAI MAIMUANzIMALAIpLAKKHANGYAOpMAIYAMOKsTAIKHU
s EKtTHOuRItCHATTAWApTHANTHAKHATpNIKHAHITpYAMAKKANpFONGMANfDIGIT ZEROlONElTWOmHREElFOURmIVElSIX
mEVENlEIGHTlNINEfCHARACTER ANGKHANKHUpKHOMUT"⟩,
  ⟨0xe81, "aLAO LETTER KOmHO SUNG"⟩,
  ⟨0xe84, "aLAO LETTER KHO TAM"⟩,
  ⟨0xe86, "aLAO LETTER PALI GHAlNGOlCOlPALI CHAlSO TAM"⟩,
  ⟨0xe8c, "
aLAO LETTER PALI JHAlNYOlPALI NYAqTTAsHAqDDAsHAqNNAlDOlTOmHO SUNGpTAMlPALI DHAlNOlBOlPOmHO SUNG
lFO TAMlPHO TAMlFO SUNGlPALI BHAlMOlYOlLO LING"⟩,
  ⟨0xea5, "aLAO LETTER LO LOOT"⟩,
  ⟨0xea7, "
aLAO LETTER WOlSANSKRIT SHAvSAmO SUNGlHO SUNGlPALI LLAlOlHO TAMeELLIPSISeVOWEL SIGN ApMAI KANpAA
qMpIqIpYqYpUqUeSIGN PALI VIRAMAeVOWEL SIGN MAI KONeSEMIVOWEL SIGN LOtNYO"⟩,
  ⟨0xec0, "aLAO VOWEL SIGN EqIpOpAYqI"⟩,
  ⟨0xec6, "aLAO KO LA"⟩,
  ⟨0xec8, "aLAO TONE MAI EKnTHOoInCATAWAeCANCELLATION MARKeNIGGAHITA"⟩,
  ⟨0xed0, "aLAO DIGIT ZEROkONEkTWOlHREEkFOURlIVEkSIXlEVENkEIGHTkNINE"⟩,
  ⟨0xedc, "aLAO HO NOhMOeLETTER KHMU GOqNYO"⟩,
  ⟨0xf00, "
aTIBETAN SYLLABLE OMiMARK GTER YIG MGO TRUNCATED Az -UM RNAM BCAD MAz -UM GTER TSHEG MA
nINITIAL YIG MGO MDUN MAnCLOSING YIG MGO SGAB MAoARET YIG MGO PHUR SHAD MAnYIG MGO TSHEG SHAD MA
nSBRUL SHADnBSKUR YIG MGOoKA- SHOG YIG MGOnINTERSYLLABIC TSHEGnDELIMITER TSHEG BSTARnSHAD
nNYIS SHADnTSHEG SHADnNYIS TSHEG SHADnRIN CHEN SPUNGS SHADoGYA GRAM SHAD
nCARET -DZUD RTAGS ME LONG CANnGTER TSHEGiLOGOTYPE SIGN CHAD RTAGSwLHAG RTAGS
iASTROLOGICAL SIGN SGRA GCAN -CHAR RTAGSz -KHYUD PAz SDONG TSHUGSiSIGN RDEL DKAR GCIGyNYISySUM
sNAG GCIGxNYISsDKAR RDEL NAGiDIGIT ZEROoONEoTWOpHREEoFOURpIVEoSIXpEVENoEIGHToNINEoHALF ONEtTWO
uHREEtFOURuIVEtSIXuEVENtEIGHTtNINEtZEROiMARK BSDUS RTAGSnNGAS BZUNG NYI ZLA
nCARET -DZUD RTAGS BZHI MIG CANnNGAS BZUNG SGOR RTAGSnCHE MGOnTSA -PHRUnGUG RTAGS GYONzAS
nANG KHANG GYONzASiSIGN YAR TSHESnMAR TSHESiLETTER KAqHApGAqHApNGApCAqHApJA"⟩,
  ⟨0xf49, "
aTIBETAN LETTER NYApTTArHApDDArHApNNApTAqHApDAqHApNApPAqHApBAqHApMApTSArHApDZArHApWApZHAqAp-ApYA
pRApLApSHAqSAqApHApApKSSApFIXED-FORM RApKKApRRA"⟩,
  ⟨0xf71, "
aTIBETAN VOWEL SIGN AAtIuItUuUtVOCALIC RzC RRzC LzC LLtEuEtOuOiSIGN RJES SU NGA ROoNAM BCAD
iVOWEL SIGN REVERSED IzED IIiSIGN NYI ZLA NAA DAnSNA LDANiMARK HALANTAnPALUTAiSIGN LCI RTAGS
nYANG RTAGSnLCE TSA CANnMCHU CANnGRU CAN RGYINGSrMED RGYINGSnINVERTED MCHU CAN
jUBJOINED SIGN LCE TSA CANxMCHU CANxINVERTED MCHU CANsLETTER KAzKHAzGAzGHAzNGAzCAzCHAzJA"⟩,
  ⟨0xf99, "
aTIBETAN SUBJOINED LETTER NYAzTTAzTTHAzDDAzDDHAzNNAzTAzTHAzDAzDHAzNAzPAzPHAzBAzBHAzMAzTSAzTSHA
zDZAzDZHAzWAzZHAzZAz-AzYAzRAzLAzSHAzSSAzSAzHAzAzKSSAzFIXED-FORM WAzFIXED-FORM YAzFIXED-FORM RA"⟩,
  ⟨0xfbe, "
aTIBETAN KU RU KHAr BZHI MIG CANiCANTILLATION SIGN HEAVY BEATz LIGHT BEATz CANG TE-Uz SBUB -CHAL
iSYMBOL DRIL BUpRDO RJEpPADMA GDANpRDO RJE RGYA GRAMpPHUR PApNOR BUv NYIS -KHYILwGSUM -KHYIL
wBZHI -KHYIL"⟩,
  ⟨0xfce, "
aTIBETAN SIGN RDEL NAG RDEL DKARwGSUMiMARK BSKA- SHOG GI MGO RGYANnMNYAM YIG GI MGO RGYAN
nNYIS TSHEGnINITIAL BRDA RNYING YIG MGO MDUN MAnCLOSING BRDA RNYING YIG MGO SGAB MA
aRIGHT-FACING SVASTI SIGNaLEFT-FACING SVASTI SIGNaRIGHT-FACING SVASTI SIGN WITH DOTS
aLEFT-FACING SVASTI SIGN WITH DOTSaTIBETAN MARK LEADING MCHAN RTAGSnTRAILING MCHAN RTAGS"⟩,
  ⟨0x1000, "
aMYANMAR LETTER KAqHApGAqHApNGApCAqHApJAqHApNYAqNYApTTArHApDDArHApNNApTAqHApDAqHApNApPAqHApBAqHA
pMApYApRApLApWApSApHApLLApApSHAN ApIqIpUqUpEpMON EpOpAUiVOWEL SIGN TALL AAtAAtIuItUuUtEtAI
tMON IIxOtE ABOVEiSIGN ANUSVARAnDOT BELOWnVISARGApRAMAnASATiCONSONANT SIGN MEDIAL YAzDIAL RA
zDIAL WAzDIAL HAiLETTER GREAT SAiDIGIT ZEROoONEoTWOpHREEoFOURpIVEoSIXpEVENoEIGHToNINE
iSIGN LITTLE SECTIONnSECTIONjYMBOL LOCATIVEpCOMPLETEDpAFOREMENTIONEDpGENITIVEiLETTER SHAqSA
pVOCALIC RyRxLyLiVOWEL SIGN VOCALIC RzC RRzC LzC LLiLETTER MON NGAtJHAtBBAvE
iCONSONANT SIGN MON MEDIAL NAzN MEDIAL MAzN MEDIAL LAiLETTER SGAW KAREN SHA
iVOWEL SIGN SGAW KAREN EUiTONE MARK SGAW KAREN HATHIzREN KE PHOiLETTER WESTERN PWO KAREN THA
zO KAREN PWAiVOWEL SIGN WESTERN PWO KAREN EUzN PWO KAREN UEiSIGN WESTERN PWO KAREN TONE-1
zKAREN TONE-2zKAREN TONE-3zKAREN TONE-4zKAREN TONE-5iLETTER EASTERN PWO KAREN NNAzO KAREN YWA
zO KAREN GHWAiVOWEL SIGN GEBA KAREN ItKAYAH OEzUzEEiLETTER SHAN KAvHAuGAuCAuZAuNYAuDAuNAuPHAuFA
uBAuTHAuHAiCONSONANT SIGN SHAN MEDIAL WAiVOWEL SIGN SHAN AAyEz ABOVEyFINAL YiSIGN SHAN TONE-2x3
x5x6sCOUNCIL TONE-2z TONE-3z EMPHATIC TONEiLETTER RUMAI PALAUNG FAiSIGN RUMAI PALAUNG TONE-5
jHAN DIGIT ZEROtONEtTWOuHREEtFOURuIVEtSIXuEVENtEIGHTtNINEjIGN KHAMTI TONE-1z3iVOWEL SIGN AITON A
zAIiSYMBOL SHAN ONEuEXCLAMATIONaGEORGIAN CAPITAL LETTER ANyBANyGANyDONyENyVINyZENyTANyINyKANyLAS
yMANyNARyONyPARyZHARyRAEySANyTARyUNyPHARyKHARyGHANyQARySHINyCHINzANyJILyCILzHARyXANyJHANyHAEzE
zIEyWEyHARzOE"⟩,
  ⟨0x10c7, "aGEORGIAN CAPITAL LETTER YN"⟩,
  ⟨0x10cd, "aGEORGIAN CAPITAL LETTER AEN"⟩,
  ⟨0x10d0, "
aGEORGIAN LETTER ANqBANqGANqDONqENqVINqZENqTANqINqKANqLASqMANqNARqONqPARqZHARqRAEqSANqTARqUN
qPHARqKHARqGHANqQARqSHINqCHINrANqJILqCILrHARqXANqJHANqHAErErIEqWEqHARrOEqFIqYNqELIFIqTURNED GAN
qAINjPARAGRAPH SEPARATORaMODIFIER LETTER GEORGIAN NARaGEORGIAN LETTER AENqHARD SIGNqLABIAL SIGN
aHANGUL CHOSEONG KIYEOKqSSANGKIYEOKqNIEUNqTIKEUTqSSANGTIKEUTqRIEULqMIEUMqPIEUPqSSANGPIEUPrIOS
rSANGSIOSqIEUNGqCIEUCqSSANGCIEUCqCHIEUCHqKHIEUKHqTHIEUTHqPHIEUPHqHIEUHqNIEUN-KIYEOKqSSANGNIEUN
qNIEUN-TIKEUTwPIEUPqTIKEUT-KIYEOKqRIEUL-NIEUNqSSANGRIEULqRIEUL-HIEUHqKAPYEOUNRIEULqMIEUM-PIEUP
qKAPYEOUNMIEUMqPIEUP-KIYEOKwNIEUNwTIKEUTwSIOSzS-KIYEOKzS-TIKEUTzS-PIEUPxSANGSIOSxIOS-CIEUCwCIEUC
xHIEUCHwTHIEUTHwPHIEUPHqKAPYEOUNPIEUPySSANGPIEUPqSIOS-KIYEOKvNIEUNvTIKEUTvRIEULvMIEUMvPIEUP
zP-KIYEOKvSSANGSIOSvIEUNGvCIEUCwHIEUCHvKHIEUKHvTHIEUTHvPHIEUPHvHIEUHqCHITUEUMSIOSzSANGSIOS
rEONGCHIEUMSIOSzUMSSANGSIOSqPANSIOSqIEUNG-KIYEOKwTIKEUTwMIEUMwPIEUPwSIOSwPANSIOSqSSANGIEUNG
qIEUNG-CIEUCxHIEUCHwTHIEUTHwPHIEUPHqYESIEUNGqCIEUC-IEUNGrHITUEUMCIEUCySSANGCIEUCrEONGCHIEUMCIEUC
zUMSSANGCIEUCrHIEUCH-KHIEUKHyHIEUHtTUEUMCHIEUCHrEONGCHIEUMCHIEUCHqPHIEUPH-PIEUPqKAPYEOUNPHIEUPH
qSSANGHIEUHqYEORINHIEUHqKIYEOK-TIKEUTqNIEUN-SIOSwCIEUCwHIEUHqTIKEUT-RIEULqFILLER
hJUNGSEONG FILLERrAsErYAtErEOsrYEOtrOrWAtErOErYOrUrWEOtsIrYUrEUrYIrIrA-OtUrYA-OuYOrEO-OuUuEU
rYEO-OvUrO-EOutYEtOtUrYO-YAwEvEOuOuIrU-AuEtEO-EUtYEtUrYU-AuEOvuYEOwuUuIrEU-UuEUrYI-UrI-AtYAtOtU
tEUtARAEArARAEAw-EOxUxIrSSANGARAEArA-EUrYA-UsEO-YArO-YAvEiONGSEONG KIYEOKrSSANGKIYEOK
rKIYEOK-SIOSrNIEUNw-CIEUCxHIEUHrTIKEUTrRIEULw-KIYEOKxMIEUMxPIEUPxSIOSxTHIEUTHxPHIEUPHxHIEUH
rMIEUMrPIEUPw-SIOSrSIOSsSANGSIOSrIEUNGrCIEUCsHIEUCHrKHIEUKHrTHIEUTHrPHIEUPHrHIEUHrKIYEOK-RIEUL
ySIOS-KIYEOKrNIEUN-KIYEOKxTIKEUTxSIOSxPANSIOSxTHIEUTHrTIKEUT-KIYEOKyRIEULrRIEUL-KIYEOK-SIOS
xNIEUNxTIKEUTzKEUT-HIEUHrSSANGRIEULrRIEUL-MIEUM-KIYEOKzEUM-SIOSxPIEUP-SIOSzEUP-HIEUH
xKAPYEOUNPIEUPxSSANGSIOSxPANSIOSxKHIEUKHxYEORINHIEUHrMIEUM-KIYEOKxRIEULxPIEUPxSIOSySANGSIOS
xPANSIOSxCHIEUCHxHIEUHrKAPYEOUNMIEUMrPIEUP-RIEULxPHIEUPHxHIEUHrKAPYEOUNPIEUPrSIOS-KIYEOKwTIKEUT
wRIEULwPIEUPrPANSIOSrIEUNG-KIYEOKxSSANGKIYEOKrSSANGIEUNGrIEUNG-KHIEUKHrYESIEUNGz-SIOSz-PANSIOS
rPHIEUPH-PIEUPrKAPYEOUNPHIEUPHrHIEUH-NIEUNxRIEULxMIEUMxPIEUPrYEORINHIEUHrKIYEOK-NIEUNyPIEUP
yCHIEUCHyKHIEUKHyHIEUHrSSANGNIEUNaETHIOPIC SYLLABLE HAtUtItAAtEEutOuAsLAtUtItAAtEEutOtWAsHHAuUuI
uAAuEEvuOuWAsMAtUtItAAtEEutOtWAsSZAuUuIuAAuEEvuOuWAsRAtUtItAAtEEutOtWAsSAtUtItAAtEEutOtWAtHAuUuI
uAAuEEvuOuWAsQAtUtItAAtEEutOuAtWA"⟩,
  ⟨0x124a, "aETHIOPIC SYLLABLE QWIuAAuEEv"⟩,
  ⟨0x1250, "aETHIOPIC SYLLABLE QHAuUuIuAAuEEvuO"⟩,
  ⟨0x1258, "aETHIOPIC SYLLABLE QHWA"⟩,
  ⟨0x125a, "aETHIOPIC SYLLABLE QHWIvAAvEEw"⟩,
  ⟨0x1260, "
aETHIOPIC SYLLABLE BAtUtItAAtEEutOtWAsVAtUtItAAtEEutOtWAsTAtUtItAAtEEutOtWAsCAtUtItAAtEEutOtWA
sXAtUtItAAtEEutOuAtWA"⟩,
  ⟨0x128a, "aETHIOPIC SYLLABLE XWIuAAuEEv"⟩,
  ⟨0x1290, "
aETHIOPIC SYLLABLE NAtUtItAAtEEutOtWAtYAuUuIuAAuEEvuOuWAsGLOTTAL Az Uz Iz AAz EEz Ez Oz WAsKAtU
tItAAtEEutOuAtWA"⟩,
  ⟨0x12b2, "aETHIOPIC SYLLABLE KWIuAAuEEv"⟩,
  ⟨0x12b8, "aETHIOPIC SYLLABLE KXAuUuIuAAuEEvuO"⟩,
  ⟨0x12c0, "aETHIOPIC SYLLABLE KXWA"⟩,
  ⟨0x12c2, "aETHIOPIC SYLLABLE KXWIvAAvEEw"⟩,
  ⟨0x12c8, "
aETHIOPIC SYLLABLE WAtUtItAAtEEutOuAsPHARYNGEAL AzEAL UzEAL IzEAL AAzEAL EEzEAL EzEAL O"⟩,
  ⟨0x12d8, "
aETHIOPIC SYLLABLE ZAtUtItAAtEEutOtWAtHAuUuIuAAuEEvuOuWAsYAtUtItAAtEEutOuAsDAtUtItAAtEEutOtWAtDA
uUuIuAAuEEvuOuWAsJAtUtItAAtEEutOtWAsGAtUtItAAtEEutOuAtWA"⟩,
  ⟨0x1312, "aETHIOPIC SYLLABLE GWIuAAuEEv"⟩,
  ⟨0x1318, "
aETHIOPIC SYLLABLE GGAuUuIuAAuEEvuOuWAAsTHAuUuIuAAuEEvuOuWAsCHAuUuIuAAuEEvuOuWAsPHAuUuIuAAuEEvuO
uWAsTSAuUuIuAAuEEvuOuWAtZAuUuIuAAuEEvuOvAsFAtUtItAAtEEutOtWAsPAtUtItAAtEEutOtWAsRYAsMYAsFYA"⟩,
  ⟨0x135d, "
aETHIOPIC COMBINING GEMINATION AND VOWEL LENGTH MARKtVOWEL LENGTH MARKtGEMINATION MARK
jSECTION MARKjWORDSPACEjFULL STOPjCOMMAjSEMICOLONjCOLONjPREFACE COLONjQUESTION MARK
jPARAGRAPH SEPARATORjDIGIT ONEpTWOqHREEpFOURqIVEpSIXqEVENpEIGHTpNINEjNUMBER TENrWENTYrHIRTY
qFORTYrIFTYqSIXTYrEVENTYqEIGHTYqNINETYqHUNDREDqTEN THOUSAND"⟩,
  ⟨0x1380, "
aETHIOPIC SYLLABLE SEBATBEIT MWAsMWIuEEvsSEBATBEIT BWAsBWIuEEvsSEBATBEIT FWAsFWIuEEv
sSEBATBEIT PWAsPWIuEEvjTONAL MARK YIZETuDERETuRIKRIKuSHORT RIKRIKuDIFATuKENATuCHIRETuHIDET
uDERET-HIDETuKURT"⟩,
  ⟨0x13a0, "
aCHEROKEE LETTER AqEqIqOqUqVqGAqKAqGErIrOrUrVqHArErIrOrUrVqLArErIrOrUrVqMArErIrOrUqNAqHNAqNAHrE
rIrOrUrVqQUAsEsIsOsUsVqSArrErIrOrUrVqDAqTAqDEqTEqDIqTIqDOrUrVrLAqTLAsEsIsOsUsVrSAsEsIsOsUsVqWArE
rIrOrUrVqYArErIrOrUrVqMV"⟩,
  ⟨0x13f8, "aCHEROKEE SMALL LETTER YExIxOxUxVwMV"⟩]

end ChatRiddles.Text.Names
